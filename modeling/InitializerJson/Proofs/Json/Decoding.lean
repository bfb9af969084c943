import InitializerJson.Proofs.Json.Document

namespace InitializerJson.JsonText

/-!
# Documents are decoded as what they stand for

Whatever white space and escapes a document is written with, the decoder gives
the value that the grammar says.  The induction is over the grammar: each layer
of brackets takes one layer of readers, and the text inside it is shorter.
-/

/-- White space is passed over up to a character that is none. -/
theorem skipSpace_append
    {space rest : List Char}
    (blank : IsBlank space)
    (ends : EndsRun isSpace rest) :
    skipSpace (space ++ rest) = rest :=
  dropWhile_append_of_endsRun blank ends

/-- No number goes on behind white space and a character that continues none. -/
theorem endsRun_continuesNumber
    {space rest : List Char}
    {next : Char}
    (blank : IsBlank space)
    (outside : continuesNumber next = false) :
    EndsRun continuesNumber (space ++ next :: rest) := by
  cases space with
  | nil => exact endsRun_cons outside
  | cons first others =>
      apply endsRun_cons
      have spaced := blank first (by simp)
      simp only [isSpace, Bool.or_eq_true, beq_iff_eq] at spaced
      rcases spaced with ((rfl | rfl) | rfl) | rfl <;> decide

/-- Behind an item with a comma, the other items are read. -/
theorem readSeparated?_of_comma
    {α : Type}
    {item : PartialReader α}
    {closing : Char}
    {text rest : List Char}
    {first : α}
    (reading : item.read text = some (first, ',' :: rest)) :
    readSeparated? item closing text =
      (readSeparated? item closing rest).map fun others =>
        (first :: others.1, others.2) := by
  rw [readSeparated?]
  split
  · next known next behind found =>
      rw [reading] at found
      cases found
      simp
  · next other =>
      exact absurd reading (other first ',' rest)

/-- Behind an item with the closing bracket, nothing more is read. -/
theorem readSeparated?_of_closing
    {α : Type}
    {item : PartialReader α}
    {closing : Char}
    {text rest : List Char}
    {first : α}
    (notComma : closing ≠ ',')
    (reading : item.read text = some (first, closing :: rest)) :
    readSeparated? item closing text = some ([first], rest) := by
  rw [readSeparated?]
  split
  · next known next behind found =>
      rw [reading] at found
      cases found
      simp [notComma]
  · next other =>
      exact absurd reading (other first closing rest)

/-- Items that are each read up to a comma or bracket are read together. -/
theorem readSeparated?_intercalate
    {α : Type}
    {item : PartialReader α}
    {closing : Char}
    {entries : List (List Char × α)}
    {rest : List Char}
    (notComma : closing ≠ ',')
    (nonempty : entries ≠ [])
    (reads :
      ∀ entry ∈ entries,
        ∀ next behind,
          next = ',' ∨ next = closing →
          item.read (entry.1 ++ next :: behind) =
            some (entry.2, next :: behind)) :
    readSeparated? item closing
        ([','].intercalate (entries.map Prod.fst) ++ closing :: rest) =
      some (entries.map Prod.snd, rest) := by
  induction entries with
  | nil => exact absurd rfl nonempty
  | cons entry others hypothesis =>
      obtain ⟨readsEntry, readsOthers⟩ := List.forall_mem_cons.mp reads
      cases others with
      | nil =>
          simp only [List.map_cons, List.map_nil, List.intercalate_singleton]
          exact readSeparated?_of_closing notComma
            (readsEntry closing rest (.inr rfl))
      | cons second more =>
          have later := hypothesis (by simp) readsOthers
          simp only [List.map_cons] at later ⊢
          rw [List.intercalate_cons_cons, List.append_assoc, List.append_assoc,
            List.singleton_append,
            readSeparated?_of_comma (readsEntry ',' _ (.inl rfl)), later]
          rfl

/-- Every part of a joined text is at most as long as the whole. -/
theorem length_le_length_intercalate
    {separator part : List Char}
    {parts : List (List Char)}
    (member : part ∈ parts) :
    part.length ≤ (separator.intercalate parts).length := by
  induction parts with
  | nil => cases member
  | cons first others hypothesis =>
      cases others with
      | nil =>
          cases List.mem_singleton.mp member
          simp
      | cons second more =>
          rw [List.intercalate_cons_cons, List.length_append, List.length_append]
          rcases List.mem_cons.mp member with rfl | later
          · omega
          · have shorter := hypothesis later
            omega

/-- A joined text begins with its first part. -/
theorem exists_intercalate_cons
    (separator first : List Char)
    (others : List (List Char)) :
    ∃ rest, separator.intercalate (first :: others) = first ++ rest := by
  cases others with
  | nil => exact ⟨[], by simp⟩
  | cons second more =>
      exact ⟨separator ++ separator.intercalate (second :: more), by simp⟩

/-- An empty container is read at once. -/
theorem readContainer?_empty
    {α : Type}
    (item : PartialReader α)
    {closing : Char}
    (build : List α → Value)
    {space : List Char}
    (rest : List Char)
    (blank : IsBlank space)
    (notSpace : isSpace closing = false) :
    readContainer? item closing build (space ++ closing :: rest) =
      some (build [], rest) := by
  have skipped : skipSpace (space ++ closing :: rest) = closing :: rest :=
    skipSpace_append blank (endsRun_cons notSpace)
  simp [readContainer?, skipped]

/--
A container is read through its items.  Behind white space its first item must
not begin with the closing bracket, which would end it at once.
-/
theorem readContainer?_intercalate
    {α : Type}
    {item : PartialReader α}
    {closing first : Char}
    (build : List α → Value)
    {entries : List (List Char × α)}
    {space others : List Char}
    (rest : List Char)
    (blank : IsBlank space)
    (notSpace : isSpace first = false)
    (notClosing : first ≠ closing)
    (notComma : closing ≠ ',')
    (nonempty : entries ≠ [])
    (begins :
      [','].intercalate (entries.map Prod.fst) = space ++ first :: others)
    (reads :
      ∀ entry ∈ entries,
        ∀ next behind,
          next = ',' ∨ next = closing →
          item.read (entry.1 ++ next :: behind) =
            some (entry.2, next :: behind)) :
    readContainer? item closing build
        ([','].intercalate (entries.map Prod.fst) ++ closing :: rest) =
      some (build (entries.map Prod.snd), rest) := by
  have skipped :
      skipSpace ([','].intercalate (entries.map Prod.fst) ++ closing :: rest) =
        first :: (others ++ closing :: rest) := by
    rw [begins, List.append_assoc]
    exact skipSpace_append blank (endsRun_cons notSpace)
  have goesOn :
      (skipSpace
        ([','].intercalate (entries.map Prod.fst) ++ closing :: rest)).head? ≠
          some closing := by
    rw [skipped]
    simpa using notClosing
  rw [readContainer?, if_neg goesOn,
    readSeparated?_intercalate notComma nonempty reads]
  rfl

/-- A value begins with no white space and no closing bracket. -/
theorem ValueText.exists_first
    {text : List Char}
    {value : Value}
    (written : ValueText text value) :
    ∃ first others,
      text = first :: others ∧ isSpace first = false ∧ first ≠ ']' := by
  cases written with
  | nullWord => exact ⟨_, _, rfl, by decide, by decide⟩
  | trueWord => exact ⟨_, _, rfl, by decide, by decide⟩
  | falseWord => exact ⟨_, _, rfl, by decide, by decide⟩
  | string => exact ⟨_, _, rfl, by decide, by decide⟩
  | emptyList => exact ⟨_, _, rfl, by decide, by decide⟩
  | list => exact ⟨_, _, rfl, by decide, by decide⟩
  | emptyObject => exact ⟨_, _, rfl, by decide, by decide⟩
  | object => exact ⟨_, _, rfl, by decide, by decide⟩
  | number digits =>
      obtain ⟨first, others, shape, begins⟩ := digits.exists_first
      refine ⟨first, others, shape, ?_, ?_⟩
      · cases spaced : isSpace first with
        | false => rfl
        | true =>
            simp only [isSpace, Bool.or_eq_true, beq_iff_eq] at spaced
            rcases spaced with ((rfl | rfl) | rfl) | rfl <;> simp at begins
      · rintro rfl
        simp at begins

/-- Behind the white space before an item stands its value. -/
theorem skipSpace_itemText
    {item : ItemText}
    (spaced : item.Spaced)
    (written : ValueText item.written item.value)
    (rest : List Char) :
    skipSpace (item.text ++ rest) = item.written ++ (item.after ++ rest) := by
  obtain ⟨first, others, shape, firstNotSpace, _⟩ := written.exists_first
  rw [ItemText.text, List.append_assoc, List.append_assoc]
  apply skipSpace_append spaced.before
  rw [shape]
  exact endsRun_cons firstNotSpace

/-- A value with white space around it is read up to what follows. -/
theorem read_itemText
    {inner : PartialReader Value}
    {item : ItemText}
    {next : Char}
    (rest : List Char)
    (spaced : item.Spaced)
    (written : ValueText item.written item.value)
    (notSpace : isSpace next = false)
    (notNumber : continuesNumber next = false)
    (reads :
      ∀ {behind : List Char},
        EndsRun continuesNumber behind →
        inner.read (item.written ++ behind) = some (item.value, behind)) :
    (itemReader inner).read (item.text ++ next :: rest) =
      some (item.value, next :: rest) := by
  have front := skipSpace_itemText spaced written (next :: rest)
  have back : skipSpace (item.after ++ next :: rest) = next :: rest :=
    skipSpace_append spaced.after (endsRun_cons notSpace)
  have ends : EndsRun continuesNumber (item.after ++ next :: rest) :=
    endsRun_continuesNumber spaced.after notNumber
  have reading := reads ends
  simp only [itemReader, front, reading, Option.map_some, back]

/-- A member begins with its name, and behind that stands a colon with its item. -/
theorem name_memberText
    {member : MemberText}
    (spaced : member.Spaced)
    (rest : List Char) :
    ∃ behind,
      readQuoted? (skipSpace (member.text ++ rest)) = some (member.name, behind) ∧
        afterMark? [':'] (skipSpace behind) = some (member.item.text ++ rest) := by
  have front :
      skipSpace (member.text ++ rest) =
        '"' :: (member.body ++ '"' ::
          (member.beforeColon ++ ':' :: (member.item.text ++ rest))) := by
    rw [MemberText.text, List.append_assoc]
    have ends :
        EndsRun isSpace
          ('"' :: (member.body ++ '"' ::
            (member.beforeColon ++ ':' :: member.item.text)) ++ rest) :=
      endsRun_cons (by decide)
    rw [skipSpace_append spaced.before ends]
    simp
  have name :=
    readBody?_bodyText spaced.body (member.beforeColon ++ ':' :: (member.item.text ++ rest))
  have colon :
      skipSpace (member.beforeColon ++ ':' :: (member.item.text ++ rest)) =
        ':' :: (member.item.text ++ rest) :=
    skipSpace_append spaced.beforeColon (endsRun_cons (by decide))
  refine ⟨member.beforeColon ++ ':' :: (member.item.text ++ rest), ?_, ?_⟩
  · simp [front, readQuoted?, name]
  · simp [colon, afterMark?]

/-- A member with white space around its parts is read up to what follows. -/
theorem read_memberText
    {inner : PartialReader Value}
    {member : MemberText}
    {next : Char}
    (rest : List Char)
    (spaced : member.Spaced)
    (written : ValueText member.item.written member.item.value)
    (notSpace : isSpace next = false)
    (notNumber : continuesNumber next = false)
    (reads :
      ∀ {behind : List Char},
        EndsRun continuesNumber behind →
        inner.read (member.item.written ++ behind) =
          some (member.item.value, behind)) :
    (memberReader inner).read (member.text ++ next :: rest) =
      some (member.entry, next :: rest) := by
  obtain ⟨behind, name, colon⟩ := name_memberText spaced (next :: rest)
  have value := read_itemText rest spaced.item written notSpace notNumber reads
  simp [memberReader, name, colon, value, MemberText.entry]

/-- A value that begins with neither quote nor bracket has no inner values. -/
theorem readLayer?_eq_readPlain?
    {inner : PartialReader Value}
    {first : Char}
    {others : List Char}
    (notQuote : first ≠ '"')
    (notList : first ≠ '[')
    (notObject : first ≠ '{') :
    readLayer? inner (first :: others) = readPlain? (first :: others) := by
  simp [readLayer?, notQuote, notList, notObject]

/-- A number is read as a value. -/
theorem readLayer?_numberText
    {inner : PartialReader Value}
    {text rest : List Char}
    {number : Number}
    (written : NumberText text number)
    (ends : EndsRun continuesNumber rest) :
    readLayer? inner (text ++ rest) = some (.number number, rest) := by
  have reading := readNumber?_numberText written ends
  obtain ⟨first, others, rfl, begins⟩ := written.exists_first
  have differs :
      ∀ character : Char,
        character ≠ '-' →
        character.isDigit = false →
        first ≠ character := by
    rintro character notMinus notDigit rfl
    rcases begins with minus | digit
    · exact notMinus minus
    · rw [notDigit] at digit
      cases digit
  have notNull : 'n' ≠ first := (differs 'n' (by decide) (by decide)).symm
  have notTrue : 't' ≠ first := (differs 't' (by decide) (by decide)).symm
  have notFalse : 'f' ≠ first := (differs 'f' (by decide) (by decide)).symm
  rw [List.cons_append] at reading ⊢
  rw [readLayer?_eq_readPlain? (differs '"' (by decide) (by decide))
    (differs '[' (by decide) (by decide)) (differs '{' (by decide) (by decide))]
  simp [readPlain?, readWord?, afterMark?, notNull, notTrue, notFalse, reading]

/-- The items of a list are read when their values are. -/
theorem readLayer?_items
    {inner : PartialReader Value}
    {items : List ItemText}
    (rest : List Char)
    (nonempty : items ≠ [])
    (spaced : ∀ item ∈ items, item.Spaced)
    (written : ∀ item ∈ items, ValueText item.written item.value)
    (reads :
      ∀ item ∈ items,
        ∀ {behind : List Char},
          EndsRun continuesNumber behind →
          inner.read (item.written ++ behind) = some (item.value, behind)) :
    readLayer? inner
        ('[' :: ([','].intercalate (items.map ItemText.text) ++ ']' :: rest)) =
      some (.list (items.map ItemText.value), rest) := by
  obtain ⟨item, others, rfl⟩ := List.exists_cons_of_ne_nil nonempty
  obtain ⟨first, more, begins, notSpace, notClosing⟩ :=
    (written item (by simp)).exists_first
  obtain ⟨behind, joined⟩ :=
    exists_intercalate_cons [','] item.text (others.map ItemText.text)
  have front :
      [','].intercalate
          (((item :: others).map fun item => (item.text, item.value)).map Prod.fst) =
        item.before ++ first :: (more ++ (item.after ++ behind)) := by
    simp only [List.map_cons, List.map_map, Function.comp_def]
    rw [joined, ItemText.text, begins]
    simp only [List.append_assoc, List.cons_append]
  have readsEntries :
      ∀ entry ∈ (item :: others).map fun item => (item.text, item.value),
        ∀ next behind,
          next = ',' ∨ next = ']' →
          (itemReader inner).read (entry.1 ++ next :: behind) =
            some (entry.2, next :: behind) := by
    intro entry member next behind ends
    obtain ⟨each, eachMember, rfl⟩ := List.mem_map.mp member
    have outside : isSpace next = false ∧ continuesNumber next = false := by
      rcases ends with rfl | rfl <;> decide
    exact read_itemText behind (spaced each eachMember) (written each eachMember)
      outside.1 outside.2 (reads each eachMember)
  have reading :=
    readContainer?_intercalate Value.list rest
      (spaced item (by simp)).before notSpace notClosing (by decide) (by simp)
      front readsEntries
  simpa [readLayer?, List.map_map, Function.comp_def] using reading

/-- The members of an object are read when their values are. -/
theorem readLayer?_members
    {inner : PartialReader Value}
    {members : List MemberText}
    (rest : List Char)
    (nonempty : members ≠ [])
    (spaced : ∀ member ∈ members, member.Spaced)
    (written :
      ∀ member ∈ members, ValueText member.item.written member.item.value)
    (reads :
      ∀ member ∈ members,
        ∀ {behind : List Char},
          EndsRun continuesNumber behind →
          inner.read (member.item.written ++ behind) =
            some (member.item.value, behind)) :
    readLayer? inner
        ('{' :: ([','].intercalate (members.map MemberText.text) ++ '}' :: rest)) =
      some (.object (members.map MemberText.entry), rest) := by
  obtain ⟨member, others, rfl⟩ := List.exists_cons_of_ne_nil nonempty
  obtain ⟨behind, joined⟩ :=
    exists_intercalate_cons [','] member.text (others.map MemberText.text)
  have front :
      [','].intercalate
          (((member :: others).map fun member =>
            (member.text, member.entry)).map Prod.fst) =
        member.before ++ '"' :: (member.body ++ '"' ::
          (member.beforeColon ++ ':' :: (member.item.text ++ behind))) := by
    simp only [List.map_cons, List.map_map, Function.comp_def]
    rw [joined, MemberText.text]
    simp only [List.append_assoc, List.cons_append]
  have readsEntries :
      ∀ entry ∈ (member :: others).map fun member => (member.text, member.entry),
        ∀ next behind,
          next = ',' ∨ next = '}' →
          (memberReader inner).read (entry.1 ++ next :: behind) =
            some (entry.2, next :: behind) := by
    intro entry inMembers next behind ends
    obtain ⟨each, eachMember, rfl⟩ := List.mem_map.mp inMembers
    have outside : isSpace next = false ∧ continuesNumber next = false := by
      rcases ends with rfl | rfl <;> decide
    exact read_memberText behind (spaced each eachMember) (written each eachMember)
      outside.1 outside.2 (reads each eachMember)
  have reading :=
    readContainer?_intercalate Value.object rest
      (spaced member (by simp)).before (show isSpace '"' = false by decide)
      (by decide) (by decide) (by simp) front readsEntries
  simpa [readLayer?, List.map_map, Function.comp_def] using reading

/-- An item's value is shorter than a list that holds the item. -/
theorem ItemText.length_written_lt
    {item : ItemText}
    {items : List ItemText}
    (member : item ∈ items) :
    item.written.length <
      ('[' :: ([','].intercalate (items.map ItemText.text) ++ [']'])).length := by
  have part : item.text.length ≤ ([','].intercalate (items.map ItemText.text)).length :=
    length_le_length_intercalate (List.mem_map_of_mem member)
  simp only [ItemText.text, List.length_append, List.length_cons] at part ⊢
  omega

/-- A member's value is shorter than an object that holds the member. -/
theorem MemberText.length_written_lt
    {member : MemberText}
    {members : List MemberText}
    (inMembers : member ∈ members) :
    member.item.written.length <
      ('{' :: ([','].intercalate (members.map MemberText.text) ++ ['}'])).length := by
  have part :
      member.text.length ≤ ([','].intercalate (members.map MemberText.text)).length :=
    length_le_length_intercalate (List.mem_map_of_mem inMembers)
  simp only [MemberText.text, ItemText.text, List.length_append, List.length_cons]
    at part ⊢
  omega

/-- One layer: a value is read when the values with shorter texts are. -/
theorem readLayer?_valueText
    {inner : PartialReader Value}
    {text rest : List Char}
    {value : Value}
    (written : ValueText text value)
    (ends : EndsRun continuesNumber rest)
    (reads :
      ∀ {part behind : List Char} {partValue : Value},
        ValueText part partValue →
        part.length < text.length →
        EndsRun continuesNumber behind →
        inner.read (part ++ behind) = some (partValue, behind)) :
    readLayer? inner (text ++ rest) = some (value, rest) := by
  cases written with
  | nullWord => simp [readLayer?, readPlain?, readWord?, afterMark?]
  | trueWord => simp [readLayer?, readPlain?, readWord?, afterMark?]
  | falseWord => simp [readLayer?, readPlain?, readWord?, afterMark?]
  | number digits => exact readLayer?_numberText digits ends
  | string characters =>
      have reading := readBody?_bodyText characters rest
      simp [readLayer?, reading]
  | emptyList blank =>
      have reading :=
        readContainer?_empty (itemReader inner) Value.list rest blank
          (show isSpace ']' = false by decide)
      simpa [readLayer?] using reading
  | list nonempty spaced texts =>
      have reading :=
        readLayer?_items rest nonempty spaced texts
          fun item member _ =>
            reads (texts item member) (ItemText.length_written_lt member)
      simpa using reading
  | emptyObject blank =>
      have reading :=
        readContainer?_empty (memberReader inner) Value.object rest blank
          (show isSpace '}' = false by decide)
      simpa [readLayer?] using reading
  | object nonempty spaced texts =>
      have reading :=
        readLayer?_members rest nonempty spaced texts
          fun member inMembers _ =>
            reads (texts member inMembers) (MemberText.length_written_lt inMembers)
      simpa using reading

/-- A value is read whole, with room for as many layers as it has characters. -/
theorem read_valueText
    {room : Nat}
    {text rest : List Char}
    {value : Value}
    (written : ValueText text value)
    (enough : text.length ≤ room)
    (ends : EndsRun continuesNumber rest) :
    (valueReader room).read (text ++ rest) = some (value, rest) := by
  induction room generalizing text rest value with
  | zero =>
      obtain ⟨first, others, rfl, _⟩ := written.exists_first
      cases enough
  | succ room hypothesis =>
      apply readLayer?_valueText written ends
      intro part behind partValue partWritten shorter partEnds
      exact hypothesis partWritten (by omega) partEnds

/-- A document is decoded as the value it stands for. -/
theorem decode?_of_isDocument
    {text : List Char}
    {value : Value}
    (document : IsDocument text value) :
    decode? text = some value := by
  obtain ⟨before, written, after, blankBefore, blankAfter, valueText, rfl⟩ := document
  obtain ⟨first, others, begins, notSpace, _⟩ := valueText.exists_first
  have front :
      skipSpace (before ++ (written ++ after)) = written ++ after := by
    apply skipSpace_append blankBefore
    rw [begins]
    exact endsRun_cons notSpace
  have back : skipSpace after = [] := by
    have skipped : skipSpace (after ++ []) = [] :=
      skipSpace_append blankAfter (by simp [EndsRun])
    simpa using skipped
  have ends : EndsRun continuesNumber after := by
    cases after with
    | nil => simp [EndsRun]
    | cons blank rest =>
        have first : IsBlank [blank] := by
          intro character member
          cases List.mem_singleton.mp member
          exact blankAfter blank (by simp)
        have ends : EndsRun continuesNumber ([blank] ++ ',' :: []) :=
          endsRun_continuesNumber first (by decide)
        exact endsRun_cons (ends blank rfl)
  have enough : written.length ≤ (before ++ (written ++ after)).length := by
    simp only [List.length_append]
    omega
  have reading := read_valueText valueText enough ends
  simp only [decode?, itemReader, front, reading, Option.map_some, back]

end InitializerJson.JsonText
