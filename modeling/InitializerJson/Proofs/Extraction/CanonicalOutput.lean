import InitializerJson.CommandLine.Run
import InitializerJson.Proofs.Site.CreationSites
import InitializerJson.Proofs.Value.Canonical

namespace InitializerJson

open Lexical JsonText

/-!
# What is extracted is canonical

From any source at all, only canonical objects are extracted, and their texts are
JSON objects.  A check that admits JSON therefore finds no fault with any of
them, so that a batch always comes to its report.
-/

/-- The numbers in the block of an assigned value are written by literals. -/
theorem writesNumbers_ofAssigned
    {value entry : Expression}
    {block : List Expression}
    (writes : value.WritesNumbers)
    (found : Lookup.ofAssigned value = .found block)
    (inBlock : entry ∈ block) :
    entry.WritesNumbers := by
  cases value with
  | creation type arguments initializer | targetTypedCreation arguments initializer =>
      cases initializer with
      | none => cases found
      | some entries =>
          cases found
          exact writes.of_part (List.mem_append_right arguments inBlock)
  | literal | invocation | assignment | initializer | name | index | unsupported => cases found

/-- The numbers in the block of a listed creation are written by literals. -/
theorem writesNumbers_ofCreation
    {tokens : List Token}
    {creation : Creation}
    {block : List Expression}
    {entry : Expression}
    (listed : creation ∈ creations tokens)
    (hasBlock : creation.initializer = some block)
    (inBlock : entry ∈ block) :
    entry.WritesNumbers := by
  obtain ⟨site, _, reads⟩ := List.mem_filterMap.mp listed
  have isPart : entry ∈ creation.toExpression.parts := by
    rw [Creation.toExpression, hasBlock]
    exact List.mem_append_right creation.arguments inBlock
  rw [← Creation.eq_toExpression reads] at isPart
  exact writesNumbers_parts_readCreation nestingLimit isPart

/-- The numbers in a block that is looked up are written by literals. -/
theorem writesNumbers_findBlock
    {tokens : List Token}
    {identifier : String}
    {addressing : Addressing}
    {block : List Expression}
    (found : findBlock tokens identifier addressing = .found block) :
    ∀ entry ∈ block, entry.WritesNumbers := by
  intro entry inBlock
  cases addressing with
  | assignment =>
      rw [findBlock, findAssignment?] at found
      cases first : ((Site.all tokens).filter fun site => site.word? == some identifier).find?
          Site.beginsAssignment with
      | none =>
          rw [first] at found
          cases found
      | some site =>
          rw [first] at found
          exact writesNumbers_ofAssigned (writesNumbers_read nestingLimit _) found inBlock
  | typeName =>
      rw [findBlock, findCreation?_eq_find?] at found
      cases first : (creations tokens).find? fun creation => creation.type == identifier with
      | none =>
          rw [first] at found
          cases found
      | some creation =>
          rw [first] at found
          cases hasBlock : creation.initializer with
          | none =>
              simp only [hasBlock] at found
              cases found
          | some entries =>
              simp only [hasBlock] at found
              cases found
              exact writesNumbers_ofCreation (List.mem_of_find?_eq_some first) hasBlock inBlock

/-- A mapped result is good only where the result was. -/
theorem exists_of_map_ok
    {ε α β : Type}
    {result : Except ε α}
    {view : α → β}
    {value : β}
    (mapped : result.map view = .ok value) :
    ∃ known, result = .ok known ∧ view known = value := by
  cases result with
  | error fault => cases mapped
  | ok known =>
      cases mapped
      exact ⟨known, rfl, rfl⟩

/-- A mapped lookup has found something only where the lookup did. -/
theorem Lookup.exists_of_map_found
    {α β : Type}
    {lookup : Lookup α}
    {view : α → β}
    {result : β}
    (mapped : lookup.map view = .found result) :
    ∃ known, lookup = .found known ∧ view known = result := by
  cases lookup with
  | found known =>
      cases mapped
      exact ⟨known, rfl, rfl⟩
  | noInitializer | noMatch => cases mapped

/-- What is extracted from a source is a canonical object. -/
theorem canonical_of_extractValue
    {source identifier : String}
    {addressing : Addressing}
    {value : Value}
    (extracted : extractValue source identifier addressing = .ok (.found value)) :
    ∃ members, value = .object members ∧ value.IsCanonical := by
  obtain ⟨tokens, _, mapped⟩ := exists_of_map_ok extracted
  obtain ⟨block, found, rfl⟩ := Lookup.exists_of_map_found mapped
  exact ⟨_, rfl, Value.isCanonical_ofRoot (writesNumbers_findBlock found)⟩

/-- The text that is extracted from a source is that of the value extracted from it. -/
theorem exists_extractValue
    {source text : String}
    {options : Options}
    (extracted : extractJson source options = .ok (.found text)) :
    ∃ value, extractValue source options.identifier options.addressing = .ok (.found value) ∧
      text = value.render options.layout := by
  obtain ⟨lookup, known, mapped⟩ := exists_of_map_ok extracted
  obtain ⟨value, rfl, rendered⟩ := Lookup.exists_of_map_found mapped
  exact ⟨value, known, rendered.symm⟩

/-- The text that is extracted from a source is a JSON object that stands for a canonical one. -/
theorem valueText_of_extractJson
    {source text : String}
    {options : Options}
    (extracted : extractJson source options = .ok (.found text)) :
    ∃ members, (Value.object members).IsCanonical ∧
      ValueText text.toList (.object members) := by
  obtain ⟨value, found, rfl⟩ := exists_extractValue extracted
  obtain ⟨members, rfl, canonical⟩ := canonical_of_extractValue found
  refine ⟨members, canonical, ?_⟩
  rw [Value.render, String.toList_ofList]
  exact Value.valueText_write options.layout canonical.isJson 0

/-- The text that is extracted from a file is extracted from the source in it. -/
theorem exists_extractJson
    {read : FileReader}
    {path text : String}
    {options : Options}
    (extracted : extractFile read path options = .ok (.found text)) :
    ∃ source, extractJson source options = .ok (.found text) := by
  rw [extractFile] at extracted
  cases file : read path with
  | error fault =>
      rw [file] at extracted
      cases extracted
  | ok source =>
      rw [file] at extracted
      cases found : extractJson source options with
      | error fault =>
          simp only [found] at extracted
          cases extracted
      | ok lookup =>
          simp only [found] at extracted
          cases extracted
          exact ⟨source, found⟩

/-- Where no item is changed or refused, the whole list is kept. -/
theorem mapM_eq_ok
    {ε α : Type}
    {check : α → Except ε α}
    {items : List α}
    (kept : ∀ item ∈ items, check item = .ok item) :
    items.mapM check = .ok items := by
  induction items with
  | nil => rfl
  | cons item others hypothesis =>
      obtain ⟨first, behind⟩ := List.forall_mem_cons.mp kept
      rw [List.mapM_cons, first, hypothesis behind]
      rfl

/-- A check of texts admits JSON when it finds no fault with the text of any value. -/
def DocumentCheck.AdmitsJson
    (check : DocumentCheck) :
    Prop :=
  ∀ (text : String) (value : Value), ValueText text.toList value → check text = none

section Batches

variable
  {check : DocumentCheck}
  (admits : check.AdmitsJson)

include admits

/-- No fault is found with what came of a file. -/
theorem checked_of_mem_extractBatch
    {read : FileReader}
    {paths : List String}
    {options : Options}
    {entry : BatchEntry}
    (member : entry ∈ extractBatch read paths options) :
    entry.checked check = .ok entry := by
  obtain ⟨path, _, rfl⟩ := List.mem_map.mp member
  unfold BatchEntry.checked
  -- Only an extracted text is checked at all.
  split
  · next text found =>
      obtain ⟨source, extracted⟩ := exists_extractJson found
      obtain ⟨members, _, written⟩ := valueText_of_extractJson extracted
      rw [admits text _ written]
  · rfl

/-- A batch comes to the report on its files, without any malformed body. -/
theorem runBatch_eq_report
    (read : FileReader)
    (files : List String)
    (target : Target) :
    runBatch check read files target =
      .report target (extractBatch read files (target.options .compact)) := by
  rw [runBatch, mapM_eq_ok fun entry member => checked_of_mem_extractBatch admits member]

end Batches

/--
What is extracted is canonical, from every source: a value is an object with
different names and canonical numbers at every level, and a text is a JSON object
that stands for such a value.  Under a check that admits JSON no batch ends in a
malformed body.
-/
theorem extraction_canonical :
    (∀ (source identifier : String) (addressing : Addressing) (value : Value),
      extractValue source identifier addressing = .ok (.found value) →
        ∃ members, value = .object members ∧ value.IsCanonical) ∧
    (∀ (source : String) (options : Options) (text : String),
      extractJson source options = .ok (.found text) →
        ∃ members, (Value.object members).IsCanonical ∧
          ValueText text.toList (.object members)) ∧
    ∀ check : DocumentCheck, check.AdmitsJson →
      ∀ (read : FileReader) (files : List String) (target : Target),
        runBatch check read files target =
          .report target (extractBatch read files (target.options .compact)) := by
  refine ⟨?_, ?_, ?_⟩
  · exact fun source identifier addressing value extracted =>
      canonical_of_extractValue extracted
  · exact fun source options text extracted => valueText_of_extractJson extracted
  · exact fun check admits read files target => runBatch_eq_report admits read files target

/-- The check that finds fault with what cannot be decoded. -/
def decodingCheck : DocumentCheck :=
  fun text => if (decode? text.toList).isSome then none else some "expected value"

/-- Whatever stands for a value can be decoded. -/
theorem admitsJson_decodingCheck :
    decodingCheck.AdmitsJson := by
  intro text value written
  have document : IsDocument text.toList value :=
    ⟨[], text.toList, [], isBlank_nil, isBlank_nil, written, by simp⟩
  rw [decodingCheck, decode?_of_isDocument document]
  rfl

/-- A source with a leading zero, a bare fraction and a name that comes twice. -/
def settingsSource : String :=
  "s=new T\x7ba=007,b=.5F,a=1\x7d;"

/-- The compact JSON text of the settings. -/
def settingsText : String :=
  "\x7b\"a\":1,\"b\":0.5\x7d"

/-- The options that ask for the compact text of the settings. -/
def settingsOptions : Options :=
  ⟨"s", .assignment, .compact⟩

/-- An outcome that has a result is no failure. -/
theorem eq_ok_of_toOption
    {ε α : Type}
    {outcome : Except ε α}
    {result : α}
    (found : outcome.toOption = some result) :
    outcome = .ok result := by
  cases outcome with
  | error fault => cases found
  | ok other => rw [Option.some.inj found]

/-- The settings are extracted, and the later of two values under one name counts. -/
theorem extractJson_settings :
    extractJson settingsSource settingsOptions = .ok (.found settingsText) :=
  eq_ok_of_toOption (by decide +kernel)

/-- The settings are canonical, and a batch of them comes to its report. -/
theorem extraction_canonical_settings :
    (∃ members, extractValue settingsSource "s" .assignment = .ok (.found (.object members)) ∧
      (Value.object members).IsCanonical) ∧
    (∃ members, (Value.object members).IsCanonical ∧
      ValueText settingsText.toList (.object members)) ∧
    decodingCheck.AdmitsJson ∧
    runBatch decodingCheck (fun _ => .ok settingsSource) ["settings"] ⟨"s", false, true⟩ =
      .report ⟨"s", false, true⟩
        (extractBatch (fun _ => .ok settingsSource) ["settings"] settingsOptions) := by
  obtain ⟨values, texts, batches⟩ := extraction_canonical
  refine ⟨?_, texts _ _ _ extractJson_settings, admitsJson_decodingCheck,
    batches decodingCheck admitsJson_decodingCheck _ _ _⟩
  obtain ⟨value, extracted, _⟩ := exists_extractValue extractJson_settings
  obtain ⟨members, rfl, canonical⟩ := values _ _ _ _ extracted
  exact ⟨members, extracted, canonical⟩

end InitializerJson
