import Mathlib.Algebra.GroupWithZero.Nat
import InitializerJson.Proofs.Expression.WholeReading
import InitializerJson.Proofs.Value.BlockShape

namespace InitializerJson

open Lexical

/-!
# Calls with type arguments among entries

A call with type arguments is no known expression: it is kept as text up to the next
comma, also where that comma stands between its type arguments.  With one type argument it
takes the whole value of its entry; with more of them every further one becomes an entry
of its own.
-/

/-- The value of a keyed entry: a literal, or a call with a number of type arguments. -/
inductive EntryValue where
  | literal (value : Literal)
  | call (typeArguments : Nat)

namespace EntryValue

/-- The number of entries that the value becomes: a call has one for each type argument. -/
def width : EntryValue → Nat
  | literal _ => 1
  | call typeArguments => typeArguments

/-- What the value stands for. -/
def value : EntryValue → Value
  | literal known => Value.ofLiteral known
  | call _ => .null

end EntryValue

/-- The tokens of a keyed entry. -/
inductive EntryTokens
    (key : String) :
    EntryValue → List Token → Prop where
  | literal
      {gap : List Char}
      {sign : Token}
      {literal : Literal}
      {tokens : List Token}
      (unreserved : isReserved key = false)
      (isSign : sign.punctuator? = some .assign)
      (scalar : ScalarTokens literal tokens) :
      EntryTokens key (.literal literal) (wordToken gap key.toList :: sign :: tokens)
  | call
      {gap : List Char}
      {sign callee less greater opening closing : Token}
      {types inside arguments : List Token}
      (unreserved : isReserved key = false)
      (isSign : sign.punctuator? = some .assign)
      (isCallee : callee.IsHead)
      (opensTypes : less.punctuator? = some .less)
      (separated : Separated (types.map fun type => [type]) inside)
      (areTypes : ∀ type ∈ types, type.IsHead)
      (closesTypes : greater.punctuator? = some .greater)
      (paired : Encloses opening closing)
      (bracketed : IsBracketed arguments) :
      EntryTokens key (.call types.length)
        (wordToken gap key.toList :: sign :: callee :: less ::
          (inside ++ greater :: opening :: (arguments ++ [closing])))

/-- What a keyed entry is read as: an assignment, and further entries that are none. -/
inductive KeyedGroup
    (key : String) :
    EntryValue → List Expression → Prop where
  | literal
      (value : Literal) :
      KeyedGroup key (.literal value) [.assignment key true (.literal value)]
  | call
      {text : String}
      {others : List Expression}
      (noEntries : ∀ other ∈ others, Value.ofEntry other = .other) :
      KeyedGroup key (.call (others.length + 1))
        (.assignment key true (.unsupported text) :: others)

/-! ## Keyed entries -/

/-- Segments go on behind a comma. -/
theorem Separated.join
    {first second : List (List Token)}
    {front back : List Token}
    {comma : Token}
    (frontSeparated : Separated first front)
    (isComma : comma.punctuator? = some .comma)
    (backSeparated : Separated second back) :
    Separated (first ++ second) (front ++ comma :: back) := by
  induction frontSeparated with
  | last => exact .cons isComma backSeparated
  | cons isInner _ hypothesis =>
      rw [List.append_assoc, List.cons_append]
      exact .cons isInner hypothesis

section Entries

variable
  {tokens inside others : List Token}
  {types : List Token}

/-- Type arguments and what follows them are read as one entry for each of them. -/
theorem exists_typePieces
    (separated : Separated (types.map fun type => [type]) inside)
    (areTypes : ∀ type ∈ types, type.IsHead)
    {greater : Token}
    (closes : greater.punctuator? = some .greater)
    (bracketed : IsBracketed others)
    (noDelimiter : fromDelimiter 0 others = [])
    (room : Nat) :
    ∃ pieces expressions, Separated pieces (inside ++ greater :: others) ∧
      List.Forall₂ (ReadsWhole (expressionReader (room + 1))) pieces expressions ∧
      expressions.length = types.length ∧
      ∀ expression ∈ expressions, Value.ofEntry expression = .other := by
  generalize shape : (types.map fun type => [type]) = segments at separated
  induction separated generalizing types with
  | last =>
      obtain ⟨type, rest, rfl, rfl, nothing⟩ := List.map_eq_cons_iff.mp shape
      obtain rfl := List.map_eq_nil_iff.mp nothing
      have isHead := List.forall_mem_singleton.mp areTypes
      exact ⟨[type :: greater :: others], [_], .last,
        .cons (readsWhole_angle isHead (.inr closes) bracketed noDelimiter room) .nil, rfl,
        List.forall_mem_singleton.mpr rfl⟩
  | cons isComma _ hypothesis =>
      obtain ⟨type, rest, rfl, rfl, more⟩ := List.map_eq_cons_iff.mp shape
      obtain ⟨isHead, areHeads⟩ := List.forall_mem_cons.mp areTypes
      obtain ⟨pieces, expressions, apart, reads, count, noEntries⟩ := hypothesis areHeads more
      refine ⟨[type] :: pieces, .name (sourceText [type]) :: expressions, ?_,
        .cons (readsWhole_name isHead room) reads, congrArg (· + 1) count,
        List.forall_mem_cons.mpr ⟨rfl, noEntries⟩⟩
      rw [List.append_assoc, List.cons_append]
      exact .cons isComma apart

/-- A word is passed over with the tokens behind it. -/
theorem Lexical.Token.IsHead.passed
    {head : Token}
    (isHead : head.IsHead)
    (bracketed : IsBracketed others) :
    IsBracketed (head :: others) ∧ fromDelimiter 0 (head :: others) = fromDelimiter 0 others := by
  obtain ⟨word, kind, _⟩ := isHead
  have isWord : head.word?.isSome := by
    rw [Token.word?, kind]
    rfl
  have begins : (firstWord? (head :: others)).isSome := isWord
  exact ⟨(isBracketed_word isWord).append bracketed, (fromDelimiter_tail_of_word begins).symm⟩

/-- A keyed entry is read as an assignment to its key and what its type arguments become. -/
theorem EntryTokens.exists_pieces
    {key : String}
    {value : EntryValue}
    (entry : EntryTokens key value tokens)
    (room : Nat) :
    ∃ pieces group, Separated pieces tokens ∧
      List.Forall₂ (ReadsWhole (expressionReader (room + 2))) pieces group ∧
      KeyedGroup key value group := by
  cases entry with
  | @literal gap sign literal tokens unreserved isSign scalar =>
      exact ⟨[wordToken gap key.toList :: sign :: tokens], _, .last,
        .cons ((scalar.readsWhole room).assignment gap unreserved isSign) .nil,
        .literal literal⟩
  | @call gap sign callee less greater opening closing types inside arguments unreserved isSign
      isCallee opensTypes separated areTypes closesTypes paired bracketed =>
      have tailBracketed : IsBracketed (opening :: (arguments ++ [closing])) :=
        .enclosed paired bracketed
      have tailPassed : fromDelimiter 0 (opening :: (arguments ++ [closing])) = [] :=
        bracketed.fromDelimiter_group paired []
      generalize shape : (types.map fun type => [type]) = segments at separated
      cases separated with
      | last =>
          -- With one type argument the whole call is the value of the entry.
          obtain ⟨type, rest, rfl, rfl, nothing⟩ := List.map_eq_cons_iff.mp shape
          obtain rfl := List.map_eq_nil_iff.mp nothing
          have behind := (isBracketed_mark closesTypes rfl rfl).append tailBracketed
          obtain ⟨typeBracketed, typePassed⟩ :=
            (List.forall_mem_singleton.mp areTypes).passed behind
          have starts :
              startsWith .greater (greater :: opening :: (arguments ++ [closing])) = true := by
            simp [startsWith, closesTypes]
          have markPassed := fromDelimiter_tail_of_startsWith starts rfl rfl
          have whole := readsWhole_angle isCallee (.inl opensTypes) typeBracketed
            (typePassed.trans (markPassed.symm.trans tailPassed)) room
          exact ⟨[_], _, .last, .cons (whole.assignment gap unreserved isSign) .nil,
            .call (List.forall_mem_nil _)⟩
      | @cons segment back segments comma isComma behind =>
          obtain ⟨type, rest, rfl, rfl, more⟩ := List.map_eq_cons_iff.mp shape
          obtain ⟨isHead, areHeads⟩ := List.forall_mem_cons.mp areTypes
          rw [← more] at behind
          obtain ⟨pieces, expressions, apart, reads, count, noEntries⟩ :=
            exists_typePieces behind areHeads closesTypes tailBracketed tailPassed (room + 1)
          obtain ⟨typeBracketed, typePassed⟩ := isHead.passed .nil
          have whole := readsWhole_angle isCallee (.inl opensTypes) typeBracketed typePassed room
          refine ⟨(wordToken gap key.toList :: sign :: callee :: less :: [type]) :: pieces,
            _ :: expressions, ?_, .cons (whole.assignment gap unreserved isSign) reads, ?_⟩
          · rw [List.append_assoc, List.cons_append]
            exact Separated.cons isComma apart
          · rw [List.length_cons, ← count]
            exact .call noEntries

/-- Keyed entries are read as one group of expressions for each of them. -/
theorem exists_keyedPieces
    {entries : List (String × EntryValue)}
    {segments : List (List Token)}
    (separated : Separated segments tokens)
    (areEntries :
      List.Forall₂ (fun entry segment => EntryTokens entry.1 entry.2 segment) entries segments)
    (room : Nat) :
    ∃ pieces groups, Separated pieces tokens ∧
      List.Forall₂ (ReadsWhole (expressionReader (room + 2))) pieces (List.flatten groups) ∧
      List.Forall₂ (fun entry group => KeyedGroup entry.1 entry.2 group) entries groups := by
  induction separated generalizing entries with
  | last =>
      obtain ⟨entry, rest, isEntry, nothing, rfl⟩ := List.forall₂_cons_right_iff.mp areEntries
      obtain rfl := List.forall₂_nil_right_iff.mp nothing
      obtain ⟨pieces, group, apart, reads, isGroup⟩ := isEntry.exists_pieces room
      exact ⟨pieces, [group], apart, by simpa using reads, .cons isGroup .nil⟩
  | cons isComma _ hypothesis =>
      obtain ⟨entry, rest, isEntry, areMore, rfl⟩ := List.forall₂_cons_right_iff.mp areEntries
      obtain ⟨pieces, group, apart, reads, isGroup⟩ := isEntry.exists_pieces room
      obtain ⟨morePieces, groups, moreApart, readsMore, areGroups⟩ := hypothesis areMore
      exact ⟨pieces ++ morePieces, group :: groups, apart.join isComma moreApart,
        List.rel_append reads readsMore, .cons isGroup areGroups⟩

end Entries

/-! ## What keyed entries stand for -/

/-- What some keyed entries contribute to a block. -/
def contributions
    (entries : List (String × EntryValue)) :
    List Entry :=
  entries.flatMap fun entry =>
    .keyed entry.1 entry.2.value :: List.replicate (entry.2.width - 1) .other

/-- The members that some keyed entries stand for. -/
def memberValues
    (entries : List (String × EntryValue)) :
    List (String × Value) :=
  entries.map fun entry => (entry.1, entry.2.value)

section Contributions

variable
  {entries : List (String × EntryValue)}

/-- A group has as many entries as the value is wide, and the first is the assignment. -/
theorem KeyedGroup.contributes
    {key : String}
    {value : EntryValue}
    {group : List Expression}
    (isGroup : KeyedGroup key value group) :
    group.length = value.width ∧
      group.map Value.ofEntry =
        .keyed key value.value :: List.replicate (value.width - 1) .other := by
  cases isGroup with
  | literal known => exact ⟨rfl, rfl⟩
  | @call text others noEntries =>
      refine ⟨rfl, congrArg (Entry.keyed key .null :: ·) ?_⟩
      exact List.map_eq_replicate_iff.mpr noEntries

/-- Groups have as many entries as the values are wide, and contribute what these do. -/
theorem contributes_of_groups
    {groups : List (List Expression)}
    (areGroups :
      List.Forall₂ (fun entry group => KeyedGroup entry.1 entry.2 group) entries groups) :
    groups.flatten.length = (entries.map fun entry => entry.2.width).sum ∧
      Value.ofEntryList groups.flatten = contributions entries := by
  induction areGroups with
  | nil => exact ⟨rfl, rfl⟩
  | cons isGroup _ hypothesis =>
      obtain ⟨count, contributed⟩ := isGroup.contributes
      rw [Value.ofEntryList_eq_map] at hypothesis ⊢
      constructor
      · simp [count, hypothesis.1]
      · simp [contributions, contributed, hypothesis.2]

/-- Every value that is read as a group is one entry wide at least. -/
theorem positive_of_groups
    {groups : List (List Expression)}
    (areGroups :
      List.Forall₂ (fun entry group => KeyedGroup entry.1 entry.2 group) entries groups) :
    ∀ entry ∈ entries, 0 < entry.2.width := by
  induction areGroups with
  | nil => exact List.forall_mem_nil _
  | cons isGroup _ hypothesis =>
      refine List.forall_mem_cons.mpr ⟨?_, hypothesis⟩
      obtain ⟨count, contributed⟩ := isGroup.contributes
      have length := congrArg List.length contributed
      rw [List.length_map, count] at length
      simp at length
      omega

/-- The assignments among what keyed entries contribute are theirs. -/
theorem keyed_contributions :
    (contributions entries).filterMap Entry.keyed? = memberValues entries := by
  have noneOther : ∀ count, (List.replicate count Entry.other).filterMap Entry.keyed? = [] := by
    simp [List.filterMap_replicate, Entry.keyed?]
  induction entries with
  | nil => rfl
  | cons entry entries hypothesis =>
      simp only [contributions, memberValues, List.flatMap_cons, List.filterMap_append,
        List.map_cons] at hypothesis ⊢
      simp [hypothesis, noneOther, Entry.keyed?]

/-- Keyed entries are an object together if none of them is wider than one entry. -/
theorem ofBlock_contributions
    (nonempty : entries ≠ [])
    (positive : ∀ entry ∈ entries, 0 < entry.2.width) :
    Value.ofBlock (contributions entries) =
      if ∀ entry ∈ entries, entry.2.width = 1 then
        Value.ofEntries (memberValues entries)
      else
        .null := by
  split
  · next narrow =>
      have single : contributions entries =
          (memberValues entries).map fun member => .keyed member.1 member.2 := by
        rw [contributions, memberValues, List.map_map, List.map_eq_flatMap]
        refine List.flatMap_congr fun entry member => ?_
        rw [narrow entry member]
        rfl
      rw [single, Value.ofBlock_keyed (by simpa [memberValues] using nonempty)]
  · next wide =>
      obtain ⟨entry, member, notOne⟩ : ∃ entry ∈ entries, entry.2.width ≠ 1 := by
        simpa using wide
      have atLeast := positive entry member
      have hasOther : Entry.other ∈ contributions entries :=
        List.mem_flatMap.mpr ⟨entry, member,
          List.mem_cons_of_mem _ (List.mem_replicate.mpr ⟨by omega, rfl⟩)⟩
      obtain ⟨first, others, rfl⟩ := List.exists_cons_of_ne_nil nonempty
      have hasKeyed : Entry.keyed first.1 first.2.value ∈ contributions (first :: others) :=
        List.mem_flatMap.mpr ⟨first, List.mem_cons_self, List.mem_cons_self⟩
      have notPlain : (contributions (first :: others)).mapM Entry.plain? = none :=
        mapM_eq_none_of_mem hasKeyed rfl
      have notKeyed : (contributions (first :: others)).mapM Entry.keyed? = none :=
        mapM_eq_none_of_mem hasOther rfl
      have notPair : (contributions (first :: others)).mapM Entry.pair? = none :=
        mapM_eq_none_of_mem hasKeyed rfl
      rw [Value.ofBlock, notPlain]
      simp only [notKeyed, notPair]

/-- A block of keyed entries is read as the groups of its entries. -/
theorem exists_groups
    {segments : List (List Token)}
    {tokens : List Token}
    (separated : Separated segments tokens)
    (areEntries :
      List.Forall₂ (fun entry segment => EntryTokens entry.1 entry.2 segment) entries segments)
    {opening closing : Token}
    (opens : opening.punctuator? = some .openBrace)
    (closes : closing.punctuator? = some .closeBrace)
    (room : Nat)
    (rest : List Token) :
    ∃ groups : List (List Expression),
      readBlock? (expressionReader (room + 2)) (opening :: (tokens ++ closing :: rest)) =
          (some groups.flatten, rest) ∧
        List.Forall₂ (fun entry group => KeyedGroup entry.1 entry.2 group) entries groups := by
  obtain ⟨pieces, groups, apart, reads, areGroups⟩ := exists_keyedPieces separated areEntries room
  have read := readEntries_of_readsWhole apart reads closes rest
  have starts : startsWith .openBrace (opening :: (tokens ++ closing :: rest)) = true := by
    simp [startsWith, opens]
  exact ⟨groups, by simp [readBlock?, starts, read], areGroups⟩

/-- Groups of keyed entries stand for an object together if none is wider than one entry. -/
theorem ofExpression_of_groups
    {groups : List (List Expression)}
    (nonempty : entries ≠ [])
    (areGroups :
      List.Forall₂ (fun entry group => KeyedGroup entry.1 entry.2 group) entries groups)
    (type : String)
    (arguments : List Expression) :
    Value.ofExpression (.creation type arguments (some groups.flatten)) =
      if ∀ entry ∈ entries, entry.2.width = 1 then
        Value.ofEntries (memberValues entries)
      else
        .null := by
  rw [Value.ofExpression, (contributes_of_groups areGroups).2]
  exact ofBlock_contributions nonempty (positive_of_groups areGroups)

end Contributions

/--
In a block of literals and calls with type arguments under unreserved keys, every entry is
read as an assignment to its key, whose value is the literal if it is one, and a call brings
one more entry for each type argument behind its first.  Inside another value the block
stands for the object of its keys only if no call has more than one type argument, and for
null otherwise; as the block that was asked for it stands for that object in any case.
-/
theorem readBlock?_keyedEntries
    {entries : List (String × EntryValue)}
    {segments : List (List Token)}
    {tokens : List Token}
    (separated : Separated segments tokens)
    (areEntries :
      List.Forall₂ (fun entry segment => EntryTokens entry.1 entry.2 segment) entries segments)
    {opening closing : Token}
    (opens : opening.punctuator? = some .openBrace)
    (closes : closing.punctuator? = some .closeBrace)
    (room : Nat)
    (rest : List Token) :
    ∃ groups : List (List Expression),
      readBlock? (expressionReader (room + 2)) (opening :: (tokens ++ closing :: rest)) =
          (some groups.flatten, rest) ∧
        List.Forall₂ (fun entry group => KeyedGroup entry.1 entry.2 group) entries groups ∧
        groups.flatten.length = (entries.map fun entry => entry.2.width).sum ∧
        (∀ type arguments,
          Value.ofExpression (.creation type arguments (some groups.flatten)) =
            if ∀ entry ∈ entries, entry.2.width = 1 then
              Value.ofEntries (memberValues entries)
            else
              .null) ∧
        Value.ofRoot groups.flatten = Value.ofEntries (memberValues entries) := by
  obtain ⟨groups, read, areGroups⟩ := exists_groups separated areEntries opens closes room rest
  obtain ⟨count, contributed⟩ := contributes_of_groups areGroups
  have nonempty : entries ≠ [] := by
    rintro rfl
    cases areEntries
    cases separated
  refine ⟨groups, read, areGroups, count, ofExpression_of_groups nonempty areGroups, ?_⟩
  rw [Value.ofRoot, contributed, keyed_contributions]

/-- The entry `K = f<types>(1)`, with the tokens of the type arguments given. -/
def genericCallTokens
    (inside : List Token) :
    List Token :=
  wordToken [' '] ['K'] :: markToken [' '] .assign :: wordToken [' '] ['f'] ::
    markToken [] .less :: (inside ++ markToken [] .greater :: markToken [] .openParenthesis ::
      ([digitToken [] '1'] ++ [markToken [] .closeParenthesis]))

/-- The entry `L = 2`. -/
def literalEntryTokens : List Token :=
  [wordToken [' '] ['L'], markToken [' '] .assign, digitToken [' '] '2']

/-- The tokens of `\x7b K = f<types>(1), L = 2 \x7d`, with those of the type arguments given. -/
def blockTokens
    (inside : List Token) :
    List Token :=
  markToken [] .openBrace ::
    ((genericCallTokens inside ++ markToken [] .comma :: literalEntryTokens) ++
      [markToken [' '] .closeBrace])

/-- The keys and values of `K = f<types>(1), L = 2`. -/
def blockEntries
    (typeArguments : Nat) :
    List (String × EntryValue) :=
  [("K", .call typeArguments), ("L", .literal (.number (.integer 2)))]

/-- A call and a literal are keyed entries. -/
theorem entryTokens_blockEntries
    {types inside : List Token}
    (separated : Separated (types.map fun type => [type]) inside)
    (areTypes : ∀ type ∈ types, type.IsHead) :
    List.Forall₂ (fun entry segment => EntryTokens entry.1 entry.2 segment)
      (blockEntries types.length) [genericCallTokens inside, literalEntryTokens] := by
  have digit : IsBracketed [digitToken [] '1'] :=
    .single rfl rfl
  have call : EntryTokens "K" (.call types.length) (genericCallTokens inside) :=
    .call (by decide) rfl ⟨"f", rfl, by decide⟩ rfl separated areTypes rfl ⟨_, _, rfl, rfl, rfl⟩
      digit
  have literal : EntryTokens "L" (.literal (.number (.integer 2))) literalEntryTokens :=
    .literal (by decide) rfl (.number rfl (by decide +kernel))
  exact .cons call (.cons literal .nil)

/-- A call with one type argument is one entry of its block, which becomes an object. -/
theorem readBlock?_keyedEntries_oneTypeArgument :
    ∃ entries, readBlock? (expressionReader nestingLimit) (blockTokens [wordToken [] ['A']]) =
        (some entries, []) ∧
      entries.length = 2 ∧
      ∀ type arguments, Value.ofExpression (.creation type arguments (some entries)) =
        .object [("K", .null), ("L", .number (.integer 2))] := by
  have separated :
      Separated ([wordToken [] ['A']].map fun type => [type]) [wordToken [] ['A']] :=
    .last
  have areTypes : ∀ type ∈ [wordToken [] ['A']], type.IsHead :=
    List.forall_mem_singleton.mpr ⟨"A", rfl, by decide⟩
  have areEntries := entryTokens_blockEntries separated areTypes
  obtain ⟨groups, read, _, count, projected, _⟩ :=
    readBlock?_keyedEntries (.cons (punctuator?_markToken [] .comma) .last) areEntries
      (punctuator?_markToken [] .openBrace) (punctuator?_markToken [' '] .closeBrace) 126 []
  refine ⟨groups.flatten, read, count, fun type arguments => ?_⟩
  rw [projected, if_pos (by decide), Value.ofEntries_of_nodup (by decide)]
  rfl

/-- The tokens of `A, B`. -/
def twoTypes : List Token :=
  [wordToken [] ['A'], markToken [] .comma, wordToken [' '] ['B']]

/-- A call with two type arguments is two entries of its block, which becomes null. -/
theorem readBlock?_twoTypeArguments :
    ∃ tokens entries, tokenize "\x7b K = f<A, B>(1), L = 2 \x7d" = .ok tokens ∧
      readBlock? (expressionReader nestingLimit) tokens = (some entries, []) ∧
      entries.length = 3 ∧
      ∀ type arguments, Value.ofExpression (.creation type arguments (some entries)) = .null := by
  have tokenized : tokenize "\x7b K = f<A, B>(1), L = 2 \x7d" = .ok (blockTokens twoTypes) := by
    rw [tokenize_eq_ok_iff]
    decide +kernel
  have separated :
      Separated ([wordToken [] ['A'], wordToken [' '] ['B']].map fun type => [type]) twoTypes :=
    .cons (punctuator?_markToken [] .comma) .last
  have areTypes : ∀ type ∈ [wordToken [] ['A'], wordToken [' '] ['B']], type.IsHead :=
    List.forall_mem_cons.mpr
      ⟨⟨"A", rfl, by decide⟩, List.forall_mem_singleton.mpr ⟨"B", rfl, by decide⟩⟩
  have areEntries := entryTokens_blockEntries separated areTypes
  obtain ⟨groups, read, areGroups⟩ :=
    exists_groups (.cons (punctuator?_markToken [] .comma) .last) areEntries
      (punctuator?_markToken [] .openBrace) (punctuator?_markToken [' '] .closeBrace) 126 []
  refine ⟨_, groups.flatten, tokenized, read, (contributes_of_groups areGroups).1,
    fun type arguments => ?_⟩
  rw [ofExpression_of_groups (List.cons_ne_nil _ _) areGroups, if_neg (by decide)]

end InitializerJson
