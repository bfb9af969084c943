import InitializerJson.Proofs.Value.UniformBlocks

namespace InitializerJson

/-!
# A block with an entry of another shape

One entry of another shape makes null of a block that stood for data, whatever the other
entries are.  Nothing but the place of its creation changes for it: of all the lists and
objects around, however many there are, only the item or the member on the way to that
place may be another one.
-/

/-! ## Places in values -/

/-- One step into a value. -/
inductive Step where
  /-- To an item of a list. -/
  | item (index : Nat)
  /-- To a member of an object. -/
  | member (name : String)

/--
Two values are the same, or they differ only at the end of some steps, where one has `old`
and the other has `new`.
-/
inductive ReplacedAt
    (old new : Value) :
    List Step → Value → Value → Prop where
  | unchanged
      {steps : List Step}
      {value : Value} :
      ReplacedAt old new steps value value
  | here :
      ReplacedAt old new [] old new
  | item
      {steps : List Step}
      {front back : List Value}
      {first second : Value}
      (inside : ReplacedAt old new steps first second) :
      ReplacedAt old new (.item front.length :: steps)
        (.list (front ++ first :: back)) (.list (front ++ second :: back))
  | member
      {steps : List Step}
      {name : String}
      {front back : List (String × Value)}
      {first second : Value}
      (fresh : name ∉ memberNames front)
      (inside : ReplacedAt old new steps first second) :
      ReplacedAt old new (.member name :: steps)
        (.object (front ++ (name, first) :: back)) (.object (front ++ (name, second) :: back))

/-! ## Maps with one value replaced -/

section Entries

variable
  {α : Type}
  {name : String}
  {first second : α}

/-- Entries are the same, or differ in the value of the first one under a name. -/
inductive DifferUnder
    (name : String)
    (first second : α) :
    List (String × α) → List (String × α) → Prop where
  | same
      {entries : List (String × α)} :
      DifferUnder name first second entries entries
  | under
      {front back : List (String × α)}
      (fresh : name ∉ memberNames front) :
      DifferUnder name first second
        (front ++ (name, first) :: back) (front ++ (name, second) :: back)

/-- An entry under another name may stand in front. -/
theorem DifferUnder.cons
    {entries others : List (String × α)}
    (differ : DifferUnder name first second entries others)
    {entry : String × α}
    (other : entry.1 ≠ name) :
    DifferUnder name first second (entry :: entries) (entry :: others) := by
  cases differ with
  | same => exact .same
  | @under front back fresh =>
      have stillFresh : name ∉ memberNames (entry :: front) :=
        fun known => (List.mem_cons.mp known).elim (fun same => other same.symm) fresh
      exact .under stillFresh

/-- The first entries may be the ones that differ. -/
theorem differUnder_head
    (back : List (String × α)) :
    DifferUnder name first second ((name, first) :: back) ((name, second) :: back) :=
  @DifferUnder.under α name first second [] back List.not_mem_nil

/-- Two values put under one name make the only difference. -/
theorem differUnder_putEntry
    (entries : List (String × α)) :
    DifferUnder name first second
      (putEntry name first entries) (putEntry name second entries) := by
  induction entries with
  | nil => exact differUnder_head _
  | cons entry entries hypothesis =>
      rw [putEntry, putEntry]
      split
      · exact differUnder_head _
      · next other => exact hypothesis.cons other

/-- One more entry leaves the difference where it is, or takes its place. -/
theorem DifferUnder.put
    {entries others : List (String × α)}
    (differ : DifferUnder name first second entries others)
    (known : String)
    (value : α) :
    DifferUnder name first second
      (putEntry known value entries) (putEntry known value others) := by
  cases differ with
  | same => exact .same
  | @under front back fresh =>
      induction front with
      | nil =>
          rw [List.nil_append, List.nil_append, putEntry, putEntry]
          split
          · exact .same
          · exact differUnder_head _
      | cons entry front hypothesis =>
          rw [memberNames, List.map_cons, List.mem_cons, not_or] at fresh
          rw [List.cons_append, List.cons_append, putEntry, putEntry]
          split
          · next here =>
              have stillFresh : name ∉ memberNames ((known, value) :: front) := by
                rw [memberNames, List.map_cons, List.mem_cons, not_or]
                exact ⟨here ▸ fresh.1, fresh.2⟩
              exact .under stillFresh
          · exact (hypothesis fresh.2).cons (Ne.symm fresh.1)

/-- Maps of entries of which one has another value differ in this value at most. -/
theorem differUnder_ofList
    (front back : List (String × α)) :
    DifferUnder name first second
      (Members.ofList (front ++ (name, first) :: back)).entries
      (Members.ofList (front ++ (name, second) :: back)).entries := by
  induction back using List.reverseRecOn with
  | nil =>
      have concat : ∀ value : α,
          (Members.ofList (front ++ [(name, value)])).entries =
            putEntry name value (Members.ofList front).entries := by
        intro value
        rw [Members.ofList, Members.insertAll, List.foldl_concat, Members.entries_insert]
        rfl
      rw [concat, concat]
      exact differUnder_putEntry _
  | append_singleton back entry hypothesis =>
      have concat : ∀ value : α,
          (Members.ofList (front ++ (name, value) :: (back ++ [entry]))).entries =
            putEntry entry.1 entry.2 (Members.ofList (front ++ (name, value) :: back)).entries := by
        intro value
        rw [← List.cons_append, ← List.append_assoc, Members.ofList, Members.insertAll,
          List.foldl_concat, Members.entries_insert]
        rfl
      rw [concat, concat]
      exact hypothesis.put entry.1 entry.2

end Entries

/-- Objects of members of which one has another value differ in this value at most. -/
theorem replacedAt_ofEntries
    {old new first second : Value}
    {steps : List Step}
    (inside : ReplacedAt old new steps first second)
    (front : List (String × Value))
    (name : String)
    (back : List (String × Value)) :
    ReplacedAt old new (.member name :: steps)
      (Value.ofEntries (front ++ (name, first) :: back))
      (Value.ofEntries (front ++ (name, second) :: back)) := by
  have differ : DifferUnder name first second _ _ := differUnder_ofList front back
  rw [Value.ofEntries, Value.ofEntries, Value.ofMembers, Value.ofMembers]
  generalize (Members.ofList (front ++ (name, first) :: back)).entries = entries at differ ⊢
  generalize (Members.ofList (front ++ (name, second) :: back)).entries = others at differ ⊢
  cases differ with
  | same => exact .unchanged
  | under fresh => exact .member fresh inside

/-! ## Places in expressions -/

/-- A creation with a block; the type is left to the context where none is named. -/
def Expression.construction
    (type : Option String)
    (arguments block : List Expression) :
    Expression :=
  match type with
  | some known => .creation known arguments (some block)
  | none => .targetTypedCreation arguments (some block)

/-- A place for a creation in the block of another one. -/
inductive Frame where
  /-- Among the entries of the block. -/
  | element
      (type : Option String)
      (arguments front back : List Expression)
  /-- As the value of an assignment among the entries. -/
  | field
      (type : Option String)
      (arguments front : List Expression)
      (target : String)
      (bare : Bool)
      (back : List Expression)

namespace Frame

/-- The creation with an expression in its place. -/
def fill
    (inner : Expression) :
    Frame → Expression
  | element type arguments front back =>
      .construction type arguments (front ++ inner :: back)
  | field type arguments front target bare back =>
      .construction type arguments (front ++ .assignment target bare inner :: back)

/-- The step to the place in the value of the creation. -/
def step : Frame → Step
  | element _ _ front _ => .item front.length
  | field _ _ _ target _ _ => .member target

/-- The creation around some places in each other, the outermost first. -/
def fillAll
    (frames : List Frame)
    (inner : Expression) :
    Expression :=
  frames.foldr (fun frame filled => frame.fill filled) inner

end Frame

open Value

/-- A creation with a block is a literal or creation as an entry. -/
theorem shape?_construction
    (type : Option String)
    (arguments block : List Expression) :
    (Expression.construction type arguments block).shape? = some .plain := by
  cases type <;> rfl

/-- A creation around places is a literal or creation, if the one inside is. -/
theorem shape?_fillAll
    {inner : Expression}
    (plain : inner.shape? = some .plain)
    (frames : List Frame) :
    (Frame.fillAll frames inner).shape? = some .plain := by
  cases frames with
  | nil => exact plain
  | cons frame frames => cases frame <;> exact shape?_construction _ _ _

/-- A creation with a mixed block stands for null, with or without a type. -/
theorem ofExpression_construction_of_mixed
    {block : List Expression}
    (mixed : IsMixed block)
    (type : Option String)
    (arguments : List Expression) :
    ofExpression (.construction type arguments block) = .null := by
  cases type with
  | some known => exact ofBlock_of_mixed mixed
  | none =>
      obtain ⟨entry, member, notKeyed⟩ := mixed .keyed
      exact ofKeyedBlock_of_mem member notKeyed

/-- Entries share the shape of any entry that is put between them, or make a mixed block of it. -/
theorem isUniform_or_isMixed
    (shape : Shape)
    (front back : List Expression) :
    IsUniform shape (front ++ back) ∨
      ∀ entry : Expression, entry.shape? = some shape → IsMixed (front ++ entry :: back) := by
  by_cases uniform : IsUniform shape (front ++ back)
  · exact .inl uniform
  right
  intro entry shaped wanted
  simp only [IsUniform, not_forall] at uniform
  obtain ⟨other, member, differs⟩ := uniform
  by_cases same : wanted = shape
  · subst same
    refine ⟨other, ?_, differs⟩
    rw [List.mem_append, List.mem_cons]
    exact (List.mem_append.mp member).imp_right .inr
  · refine ⟨entry, by simp, ?_⟩
    rw [shaped]
    exact fun found => same (Option.some.inj found).symm

/-- Entries of a shape with one more of it between them have one shape. -/
theorem IsUniform.between
    {shape : Shape}
    {front back : List Expression}
    (uniform : IsUniform shape (front ++ back))
    {entry : Expression}
    (shaped : entry.shape? = some shape) :
    IsUniform shape (front ++ entry :: back) := by
  simp only [IsUniform, List.forall_mem_append, List.forall_mem_cons] at uniform ⊢
  exact ⟨uniform.1, shaped, uniform.2⟩

/-- An assignment between other entries contributes its member between theirs. -/
theorem filterMap_assigned?_between
    (front : List Expression)
    (target : String)
    (bare : Bool)
    (value : Expression)
    (back : List Expression) :
    (front ++ .assignment target bare value :: back).filterMap assigned? =
      front.filterMap assigned? ++ (target, ofExpression value) :: back.filterMap assigned? := by
  rw [List.filterMap_append]
  rfl

section Around

variable
  {old new : Value}
  {steps : List Step}
  {first second : Expression}
  (inside : ReplacedAt old new steps (ofExpression first) (ofExpression second))

include inside

/-- What is replaced in a creation is replaced in the list around it, if there is one. -/
theorem replacedAt_element
    (firstPlain : first.shape? = some .plain)
    (secondPlain : second.shape? = some .plain)
    (type : Option String)
    (arguments front back : List Expression) :
    ReplacedAt old new (.item front.length :: steps)
      (ofExpression (.construction type arguments (front ++ first :: back)))
      (ofExpression (.construction type arguments (front ++ second :: back))) := by
  cases type with
  | none =>
      have null : ∀ entry : Expression, entry.shape? = some .plain →
          ofExpression (.construction none arguments (front ++ entry :: back)) = .null := by
        intro entry plain
        have member : entry ∈ front ++ entry :: back := by
          simp
        exact ofKeyedBlock_of_mem member (by rw [plain]; decide)
      rw [null first firstPlain, null second secondPlain]
      exact .unchanged
  | some type =>
      rcases isUniform_or_isMixed .plain front back with plain | mixed
      · have list : ∀ entry : Expression, entry.shape? = some .plain →
            ofExpression (.construction (some type) arguments (front ++ entry :: back)) =
              .list (front.map ofExpression ++ ofExpression entry :: back.map ofExpression) :=
          fun entry isPlain => (ofBlock_of_plain (plain.between isPlain)).trans (by simp)
        rw [list first firstPlain, list second secondPlain, ← List.length_map ofExpression]
        exact .item inside
      · rw [ofExpression_construction_of_mixed (mixed first firstPlain),
          ofExpression_construction_of_mixed (mixed second secondPlain)]
        exact .unchanged

/-- What is replaced in a creation is replaced in the object around it, if there is one. -/
theorem replacedAt_field
    (type : Option String)
    (arguments front : List Expression)
    (target : String)
    (bare : Bool)
    (back : List Expression) :
    ReplacedAt old new (.member target :: steps)
      (ofExpression (.construction type arguments (front ++ .assignment target bare first :: back)))
      (ofExpression
        (.construction type arguments (front ++ .assignment target bare second :: back))) := by
  rcases isUniform_or_isMixed .keyed front back with keyed | mixed
  · have object : ∀ value : Expression,
        ofExpression
            (.construction type arguments (front ++ .assignment target bare value :: back)) =
          ofEntries (front.filterMap assigned? ++
            (target, ofExpression value) :: back.filterMap assigned?) := by
      intro value
      have isKeyed : (Expression.assignment target bare value).shape? = some .keyed := by
        rfl
      have uniform := keyed.between isKeyed
      rw [← filterMap_assigned?_between]
      cases type with
      | none => exact ofKeyedBlock_of_keyed uniform (by simp)
      | some type => exact ofBlock_of_keyed uniform (by simp)
    rw [object, object]
    exact replacedAt_ofEntries inside _ target _
  · rw [ofExpression_construction_of_mixed (mixed (.assignment target bare first) rfl),
      ofExpression_construction_of_mixed (mixed (.assignment target bare second) rfl)]
    exact .unchanged

/-- What is replaced in an assigned value is replaced in the object of a root block. -/
theorem replacedAt_root
    (front : List Expression)
    (target : String)
    (bare : Bool)
    (back : List Expression) :
    ReplacedAt old new (.member target :: steps)
      (ofRoot (front ++ .assignment target bare first :: back))
      (ofRoot (front ++ .assignment target bare second :: back)) := by
  rw [ofRoot_eq, ofRoot_eq, filterMap_assigned?_between, filterMap_assigned?_between]
  exact replacedAt_ofEntries inside _ target _

end Around

/-- What is replaced in a creation is replaced at its place in all that is around it. -/
theorem replacedAt_fillAll
    {old new : Value}
    {first second : Expression}
    (firstPlain : first.shape? = some .plain)
    (secondPlain : second.shape? = some .plain)
    (replaced : ReplacedAt old new [] (ofExpression first) (ofExpression second))
    (frames : List Frame) :
    ReplacedAt old new (frames.map Frame.step)
      (ofExpression (Frame.fillAll frames first)) (ofExpression (Frame.fillAll frames second)) := by
  induction frames with
  | nil => exact replaced
  | cons frame frames hypothesis =>
      cases frame with
      | element type arguments front back =>
          exact replacedAt_element hypothesis (shape?_fillAll firstPlain frames)
            (shape?_fillAll secondPlain frames) type arguments front back
      | field type arguments front target bare back =>
          exact replacedAt_field hypothesis type arguments front target bare back

/-- A block of two entries or more is mixed when one of them is replaced by one of another shape. -/
theorem IsUniform.isMixed_set
    {shape : Shape}
    {block : List Expression}
    (uniform : IsUniform shape block)
    (several : 2 ≤ block.length)
    {index : Nat}
    (inside : index < block.length)
    {entry : Expression}
    (differs : entry.shape? ≠ some shape) :
    IsMixed (block.set index entry) := by
  intro wanted
  by_cases same : wanted = shape
  · subst same
    exact ⟨entry, List.mem_set inside entry, differs⟩
  · -- Some other entry keeps its place, and its shape is the shared one.
    obtain ⟨other, otherInside, apart⟩ : ∃ other < block.length, index ≠ other :=
      ⟨if index = 0 then 1 else 0, by split <;> omega, by split <;> omega⟩
    refine ⟨block[other], ?_, ?_⟩
    · rw [← List.getElem_set_ne apart (by simpa using otherInside)]
      exact List.getElem_mem _
    · rw [uniform _ (List.getElem_mem otherInside)]
      exact fun found => same (Option.some.inj found).symm

/--
A block of one shape stands for data by that shape, and for null as soon as one of its
several entries is replaced by one of another shape, be it of a shape that makes data or of
none.  Around its creation nothing changes but the value at its place: in lists and objects
of creations, however deep, and in the object of a root block.
-/
theorem ofExpression_replacedEntry
    {shape : Shape}
    {block : List Expression}
    (uniform : IsUniform shape block)
    (several : 2 ≤ block.length)
    {index : Nat}
    (inside : index < block.length)
    {entry : Expression}
    (differs : entry.shape? ≠ some shape)
    (arguments : List Expression) :
    (∀ type,
      StandsFor shape block (ofExpression (.construction (some type) arguments block))) ∧
      ∀ type : Option String,
        ofExpression (.construction type arguments (block.set index entry)) = .null ∧
          ∀ frames : List Frame,
            ReplacedAt (ofExpression (.construction type arguments block)) .null
              (frames.map Frame.step)
              (ofExpression (Frame.fillAll frames (.construction type arguments block)))
              (ofExpression (Frame.fillAll frames
                (.construction type arguments (block.set index entry)))) ∧
            ∀ front target bare back,
              ReplacedAt (ofExpression (.construction type arguments block)) .null
                (.member target :: frames.map Frame.step)
                (ofRoot (front ++ .assignment target bare
                  (Frame.fillAll frames (.construction type arguments block)) :: back))
                (ofRoot (front ++ .assignment target bare
                  (Frame.fillAll frames
                    (.construction type arguments (block.set index entry))) :: back)) := by
  have nonempty : block ≠ [] := List.ne_nil_of_length_pos (Nat.zero_lt_of_lt inside)
  refine ⟨fun type => standsFor_creation uniform nonempty type arguments, fun type => ?_⟩
  have null := ofExpression_construction_of_mixed
    (uniform.isMixed_set several inside differs) type arguments
  refine ⟨null, fun frames => ?_⟩
  have replaced : ReplacedAt (ofExpression (.construction type arguments block)) .null []
      (ofExpression (.construction type arguments block))
      (ofExpression (.construction type arguments (block.set index entry))) := by
    rw [null]
    exact .here
  have around := replacedAt_fillAll (shape?_construction type arguments block)
    (shape?_construction type arguments (block.set index entry)) replaced frames
  exact ⟨around, fun front target bare back => replacedAt_root around front target bare back⟩

/--
A call among literals makes null of their list, which is the second item of a list under
`Rows`; the member before it, the first item and the names stay as they are.
-/
theorem ofExpression_replacedEntry_rows :
    let literals : List Expression := [.literal (.bool true), .literal (.bool false)]
    let replaced : List Expression := [.literal (.bool true), .invocation "f" []]
    let rows (block : List Expression) : Expression :=
      .creation "Rows" [] (some [.literal .null, .targetTypedCreation [] none,
        .creation "Row" [] (some block)])
    let root (block : List Expression) : List Expression :=
      [.assignment "Id" true (.literal .null), .assignment "Rows" true (rows block)]
    IsUniform .plain literals ∧
      (Expression.invocation "f" []).shape? ≠ some .plain ∧
      ofExpression (.creation "Row" [] (some replaced)) = .null ∧
      ReplacedAt (.list [.bool true, .bool false]) .null [.member "Rows", .item 2]
        (ofRoot (root literals)) (ofRoot (root replaced)) := by
  intro literals replaced rows root
  have uniform : IsUniform .plain literals := by
    simp [literals, IsUniform, Expression.shape?]
  have differs : (Expression.invocation "f" []).shape? ≠ some .plain := by
    decide
  have second : 1 < literals.length :=
    Nat.lt_add_one 1
  obtain ⟨_, replacing⟩ := ofExpression_replacedEntry uniform (Nat.le_refl 2) second differs []
  obtain ⟨null, around⟩ := replacing (some "Row")
  obtain ⟨_, inRoot⟩ :=
    around [.element (some "Rows") [] [.literal .null, .targetTypedCreation [] none] []]
  exact ⟨uniform, differs, null,
    inRoot [.assignment "Id" true (.literal .null)] "Rows" true []⟩

end InitializerJson
