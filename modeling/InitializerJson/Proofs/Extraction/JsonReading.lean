import InitializerJson.Proofs.Extraction.BoundedNesting
import InitializerJson.Proofs.Extraction.CanonicalOutput
import InitializerJson.Proofs.Value.BoundedJson

namespace InitializerJson

open Expression JsonText Lexical

/-!
# The two ways out agree but for one kind of integer

A value leaves as text, or as data with bounded numbers.  Read with bounded numbers, the
text of a value that comes from a source is that data, unless the value holds an integer
below all that fit in 64 bits: of such an integer the text shows all digits, while the
data holds null in its place.
-/

/-- A text is read as data by a reader of JSON with bounded numbers. -/
def ReadsDocument
    (text : List Char)
    (json : Json) :
    Prop :=
  ∃ value, IsDocument text value ∧ value.ReadsAs json

/-- The values of the expressions in a source, and the objects of blocks of them. -/
inductive ComesFromSource
    (tokens : List Token) :
    Value → Prop where
  | expression
      {expression : Expression} :
      LiesInSource tokens expression →
      ComesFromSource tokens (.ofExpression expression)
  | root
      {block : List Expression} :
      (∀ entry ∈ block, LiesInSource tokens entry) →
      ComesFromSource tokens (.ofRoot block)

/-! ## Numbers in sources -/

/-- The numbers in what lies within an expression are among those in the whole. -/
theorem Expression.WritesNumbers.of_within
    {inner whole : Expression}
    (writes : whole.WritesNumbers)
    (within : inner.IsWithin whole) :
    inner.WritesNumbers :=
  fun number deeper => writes number (deeper.trans within)

/-- The numbers in a source are written by literals. -/
theorem LiesInSource.writesNumbers
    {tokens : List Token}
    {expression : Expression}
    (lies : LiesInSource tokens expression) :
    expression.WritesNumbers := by
  cases lies with
  | assigned listed within =>
      refine .of_within (writesNumbers_of_parts (by rintro _ ⟨⟩) fun part isPart => ?_) within
      obtain ⟨site, _, rfl⟩ := List.mem_map.mp listed
      rw [List.mem_singleton.mp isPart]
      exact writesNumbers_read nestingLimit _
  | created listed within =>
      refine .of_within (writesNumbers_of_parts (by rintro _ ⟨⟩) fun part isPart => ?_) within
      obtain ⟨site, _, created⟩ := List.mem_filterMap.mp listed
      rw [← Creation.eq_toExpression created] at isPart
      exact writesNumbers_parts_readCreation nestingLimit isPart

namespace ComesFromSource

variable {tokens : List Token} {value : Value}

/-- A value that comes from a source is canonical. -/
theorem isCanonical
    (comes : ComesFromSource tokens value) :
    value.IsCanonical := by
  cases comes with
  | expression lies => exact (Value.isCanonical_ofExpression lies.writesNumbers).1
  | root lie => exact Value.isCanonical_ofRoot fun entry member => (lie entry member).writesNumbers

/-- The numbers in a value that comes from a source are written by literals. -/
theorem isOfLiteral
    (comes : ComesFromSource tokens value)
    {number : Number}
    (holds : value.Holds number) :
    number.IsOfLiteral := by
  cases comes with
  | @expression expression lies =>
      exact lies.writesNumbers number ((Value.isWithin_of_holds expression).1 holds)
  | root lie =>
      obtain ⟨entry, member, within⟩ := Value.exists_entry_of_holds_ofRoot holds
      exact (lie entry member).writesNumbers number within

end ComesFromSource

/-- What is extracted from a source comes from it. -/
theorem exists_comesFromSource
    {source identifier : String}
    {addressing : Addressing}
    {value : Value}
    (extracted : extractValue source identifier addressing = .ok (.found value)) :
    ∃ tokens, tokenize source = .ok tokens ∧ ComesFromSource tokens value := by
  obtain ⟨tokens, tokenized, mapped⟩ := exists_of_map_ok extracted
  obtain ⟨block, found, rfl⟩ := Lookup.exists_of_map_found mapped
  obtain ⟨root, lies, creates⟩ := exists_createsFrom_of_findBlock found
  refine ⟨tokens, tokenized, .root fun entry member => ?_⟩
  have isPart := creates.mem_parts member
  cases lies with
  | assigned listed within =>
      exact .assigned listed ((IsWithin.of_part .refl isPart).trans within)
  | created listed within =>
      exact .created listed ((IsWithin.of_part .refl isPart).trans within)

/-! ## Reading what is rendered -/

/-- The text of a value is read as what the value is read as. -/
theorem readsDocument_render_iff
    {value : Value}
    (isJson : value.IsJson)
    (layout : Layout)
    {json : Json} :
    ReadsDocument (value.render layout).toList json ↔ value.ReadsAs json := by
  obtain ⟨document, decoded, _⟩ := Value.render_lossless layout isJson
  constructor
  · rintro ⟨other, isDocument, reads⟩
    have same := decode?_of_isDocument isDocument
    rw [decoded] at same
    rwa [Option.some.inj same]
  · exact fun reads => ⟨value, document, reads⟩

/--
In either layout the text of a value that comes from a source is read as one document.
It is the data that the value becomes exactly where the value holds no integer below all
that fit in 64 bits, and only such integers become nothing.
-/
theorem readsDocument_toJson_iff
    {tokens : List Token}
    {value : Value}
    (comes : ComesFromSource tokens value)
    (layout : Layout) :
    (∃! json, ReadsDocument (value.render layout).toList json) ∧
      (ReadsDocument (value.render layout).toList value.toJson ↔
        ∀ number, value.Holds number → number.isBelowWord = false) ∧
      ∀ number, value.Holds number → (number.toJsonNumber? = none ↔ number.isBelowWord = true) := by
  have written : ∀ number, value.Holds number → number.IsOfLiteral :=
    fun number holds => comes.isOfLiteral holds
  simp only [readsDocument_render_iff comes.isCanonical.isJson layout]
  refine ⟨?_, Value.readsAs_toJson_iff written, fun number holds => ?_⟩
  · obtain ⟨json, reads⟩ := Value.exists_readsAs written
    exact ⟨json, reads, fun other otherReads => otherReads.unique reads⟩
  · obtain ⟨read, _, bounded⟩ := (written number holds).exists_readsAs
    rw [bounded]
    cases number.isBelowWord <;> simp

/-- An assignment of both limits of 64 bits and of a small real number. -/
def limitSource : String :=
  "Body = new T \x7b Low = -9223372036854775808, High = 0xFFFF_FFFF_FFFF_FFFF, Step = -1.50E-3f \x7d;"

/-- The value that is extracted from this source comes from it, and is read as data. -/
theorem readsDocument_toJson_iff_limitSource :
    ∃ tokens value,
      tokenize limitSource = .ok tokens ∧
        value.render .compact =
          "\x7b\"Low\":-9223372036854775808,\"High\":18446744073709551615,\"Step\":-1.50e-3\x7d" ∧
        ComesFromSource tokens value ∧
        (∃! json, ReadsDocument (value.render .compact).toList json) ∧
          (ReadsDocument (value.render .compact).toList value.toJson ↔
            ∀ number, value.Holds number → number.isBelowWord = false) ∧
          ∀ number, value.Holds number →
            (number.toJsonNumber? = none ↔ number.isBelowWord = true) := by
  have found :
      extractJson limitSource ⟨"Body", .assignment, .compact⟩ =
        .ok (.found
          "\x7b\"Low\":-9223372036854775808,\"High\":18446744073709551615,\"Step\":-1.50e-3\x7d") := by
    decide +kernel
  obtain ⟨value, extracted, rendered⟩ := exists_extractValue found
  obtain ⟨tokens, tokenized, comes⟩ := exists_comesFromSource extracted
  exact ⟨tokens, value, tokenized, rendered.symm, comes,
    readsDocument_toJson_iff comes .compact⟩

/-- An object with an integer below all that fit in 64 bits. -/
def belowWordValue : Value :=
  .object [("X", .number (.integer (-9223372036854775809)))]

/-- What the text of this object is read as: the integer has become a double. -/
def belowWordReading : Json :=
  .object [("X", .number (.double 0xc3e0000000000000))]

/-- The object is extracted from a source and becomes null data, which its text is not read as. -/
theorem toJson_belowWordValue :
    extractValue "Body = new T \x7b X = -9223372036854775809 \x7d;" "Body" .assignment =
        .ok (.found belowWordValue) ∧
      belowWordValue.toJson = .object [("X", .null)] ∧
      ∀ layout,
        ReadsDocument (belowWordValue.render layout).toList belowWordReading ∧
          ¬ ReadsDocument (belowWordValue.render layout).toList belowWordValue.toJson := by
  have found :
      extractJson "Body = new T \x7b X = -9223372036854775809 \x7d;"
          ⟨"Body", .assignment, .compact⟩ =
        .ok (.found "\x7b\"X\":-9223372036854775809\x7d") := by
    decide +kernel
  have text : belowWordValue.render .compact = "\x7b\"X\":-9223372036854775809\x7d" := by
    decide +kernel
  have isJson : belowWordValue.IsJson :=
    ⟨trivial, trivial⟩
  obtain ⟨value, extracted, rendered⟩ := exists_extractValue found
  obtain ⟨tokens, _, comes⟩ := exists_comesFromSource extracted
  obtain ⟨_, _, only⟩ := Value.render_lossless .compact isJson
  obtain rfl := only value comes.isCanonical.isJson (rendered.symm.trans text.symm)
  refine ⟨extracted, rfl, fun layout => ?_⟩
  simp only [readsDocument_render_iff isJson layout]
  have outside : ¬ FitsInWord (-9223372036854775809) := by
    unfold FitsInWord
    omega
  have nearest : IsNearestDouble (9223372036854775809 : ℕ) 0x43e0000000000000 :=
    isNearestDouble_of_lt (by omega)
  have reads : belowWordValue.ReadsAs belowWordReading :=
    .object (.cons (.number (.rounded outside nearest)) .nil)
  refine ⟨reads, fun readsNull => ?_⟩
  have same := readsNull.unique reads
  cases same

end InitializerJson
