import InitializerJson.Proofs.Number.BoundedNumber
import InitializerJson.Proofs.Value.HeldNumbers
import InitializerJson.Proofs.Value.Rendering

namespace InitializerJson

open JsonText

/-!
# Values as bounded readers take them

A reader of JSON with bounded numbers keeps the order of items and members and takes
every number for the bounded one that it stands for.  What a value becomes as such data
is what the text of the value is read as, unless the value holds an integer for which
there is nothing.
-/

namespace Value

mutual

/-- What a reader of JSON with bounded numbers makes of a value. -/
inductive ReadsAs : Value → Json → Prop where
  | null :
      ReadsAs .null .null
  | bool
      {truth : Bool} :
      ReadsAs (.bool truth) (.bool truth)
  | number
      {number : Number}
      {read : JsonNumber} :
      number.ReadsAs read →
      ReadsAs (.number number) (.number read)
  | string
      {text : String} :
      ReadsAs (.string text) (.string text)
  | list
      {items : List Value}
      {reads : List Json} :
      ItemsReadAs items reads →
      ReadsAs (.list items) (.array reads)
  | object
      {members : List (String × Value)}
      {reads : List (String × Json)} :
      MembersReadAs members reads →
      ReadsAs (.object members) (.object reads)

/-- What such a reader makes of some items, in their order. -/
inductive ItemsReadAs : List Value → List Json → Prop where
  | nil :
      ItemsReadAs [] []
  | cons
      {item : Value}
      {items : List Value}
      {read : Json}
      {reads : List Json} :
      ReadsAs item read →
      ItemsReadAs items reads →
      ItemsReadAs (item :: items) (read :: reads)

/-- What such a reader makes of some members, in their order. -/
inductive MembersReadAs : List (String × Value) → List (String × Json) → Prop where
  | nil :
      MembersReadAs [] []
  | cons
      {name : String}
      {value : Value}
      {members : List (String × Value)}
      {read : Json}
      {reads : List (String × Json)} :
      ReadsAs value read →
      MembersReadAs members reads →
      MembersReadAs ((name, value) :: members) ((name, read) :: reads)

end

/-! ## One reading at most -/

/-- Items that are each read as one thing at most are so together. -/
theorem ItemsReadAs.unique
    {items : List Value}
    {first second : List Json}
    (uniquely : ∀ item ∈ items, ∀ one other, item.ReadsAs one → item.ReadsAs other → one = other)
    (readFirst : ItemsReadAs items first)
    (readSecond : ItemsReadAs items second) :
    first = second := by
  induction items generalizing first second with
  | nil =>
      cases readFirst
      cases readSecond
      rfl
  | cons item items hypothesis =>
      obtain _ | ⟨isFirst, firstBehind⟩ := readFirst
      obtain _ | ⟨isSecond, secondBehind⟩ := readSecond
      obtain ⟨here, behind⟩ := List.forall_mem_cons.mp uniquely
      rw [here _ _ isFirst isSecond, hypothesis behind firstBehind secondBehind]

/-- Members whose values are each read as one thing at most are so together. -/
theorem MembersReadAs.unique
    {members : List (String × Value)}
    {first second : List (String × Json)}
    (uniquely :
      ∀ member ∈ members, ∀ one other,
        member.2.ReadsAs one → member.2.ReadsAs other → one = other)
    (readFirst : MembersReadAs members first)
    (readSecond : MembersReadAs members second) :
    first = second := by
  induction members generalizing first second with
  | nil =>
      cases readFirst
      cases readSecond
      rfl
  | cons member members hypothesis =>
      obtain _ | ⟨isFirst, firstBehind⟩ := readFirst
      obtain _ | ⟨isSecond, secondBehind⟩ := readSecond
      obtain ⟨here, behind⟩ := List.forall_mem_cons.mp uniquely
      rw [here _ _ isFirst isSecond, hypothesis behind firstBehind secondBehind]

/-- A value is read as one thing at most. -/
theorem ReadsAs.unique
    {value : Value}
    {first second : Json}
    (readFirst : value.ReadsAs first)
    (readSecond : value.ReadsAs second) :
    first = second := by
  induction value using nestedInduction generalizing first second with
  | null | bool | string =>
      cases readFirst
      cases readSecond
      rfl
  | number number =>
      obtain _ | _ | ⟨isFirst⟩ := readFirst
      obtain _ | _ | ⟨isSecond⟩ := readSecond
      rw [isFirst.unique isSecond]
  | list items hypothesis =>
      obtain _ | _ | _ | _ | ⟨isFirst⟩ := readFirst
      obtain _ | _ | _ | _ | ⟨isSecond⟩ := readSecond
      rw [isFirst.unique (fun item member _ _ => hypothesis item member) isSecond]
  | object members hypothesis =>
      obtain _ | _ | _ | _ | _ | ⟨isFirst⟩ := readFirst
      obtain _ | _ | _ | _ | _ | ⟨isSecond⟩ := readSecond
      rw [isFirst.unique (fun member inMembers _ _ => hypothesis member inMembers) isSecond]

/-! ## The reading of canonical values -/

/-- Items that are each read as something are so together. -/
theorem exists_itemsReadAs
    {items : List Value}
    (reads : ∀ item ∈ items, ∃ read, item.ReadsAs read) :
    ∃ read, ItemsReadAs items read := by
  induction items with
  | nil => exact ⟨[], .nil⟩
  | cons item items hypothesis =>
      obtain ⟨here, behind⟩ := List.forall_mem_cons.mp reads
      obtain ⟨first, isFirst⟩ := here
      obtain ⟨others, areOthers⟩ := hypothesis behind
      exact ⟨first :: others, .cons isFirst areOthers⟩

/-- Members whose values are each read as something are so together. -/
theorem exists_membersReadAs
    {members : List (String × Value)}
    (reads : ∀ member ∈ members, ∃ read, member.2.ReadsAs read) :
    ∃ read, MembersReadAs members read := by
  induction members with
  | nil => exact ⟨[], .nil⟩
  | cons member members hypothesis =>
      obtain ⟨here, behind⟩ := List.forall_mem_cons.mp reads
      obtain ⟨first, isFirst⟩ := here
      obtain ⟨others, areOthers⟩ := hypothesis behind
      exact ⟨(member.1, first) :: others, .cons isFirst areOthers⟩

/-- A value whose numbers literals write is read as something. -/
theorem exists_readsAs
    {value : Value}
    (written : ∀ number, value.Holds number → number.IsOfLiteral) :
    ∃ read, value.ReadsAs read := by
  induction value using nestedInduction with
  | null => exact ⟨_, .null⟩
  | bool => exact ⟨_, .bool⟩
  | string => exact ⟨_, .string⟩
  | number number =>
      obtain ⟨read, reads, _⟩ := (written number .number).exists_readsAs
      exact ⟨_, .number reads⟩
  | list items hypothesis =>
      obtain ⟨read, reads⟩ := exists_itemsReadAs fun item member =>
        hypothesis item member fun number holds => written number (.item member holds)
      exact ⟨_, .list reads⟩
  | object members hypothesis =>
      obtain ⟨read, reads⟩ := exists_membersReadAs fun member inMembers =>
        hypothesis member inMembers fun number holds => written number (.member inMembers holds)
      exact ⟨_, .object reads⟩

/-- Items are read as what they become exactly where each of them is. -/
theorem itemsReadAs_itemsToJson_iff
    {items : List Value} :
    ItemsReadAs items (itemsToJson items) ↔ ∀ item ∈ items, item.ReadsAs item.toJson := by
  induction items with
  | nil => exact iff_of_true .nil (List.forall_mem_nil _)
  | cons item items hypothesis =>
      rw [itemsToJson, List.forall_mem_cons, ← hypothesis]
      constructor
      · rintro ⟨⟩
        next here behind => exact ⟨here, behind⟩
      · rintro ⟨here, behind⟩
        exact .cons here behind

/-- Members are read as what they become exactly where the value of each of them is. -/
theorem membersReadAs_membersToJson_iff
    {members : List (String × Value)} :
    MembersReadAs members (membersToJson members) ↔
      ∀ member ∈ members, member.2.ReadsAs member.2.toJson := by
  induction members with
  | nil => exact iff_of_true .nil (List.forall_mem_nil _)
  | cons member members hypothesis =>
      rw [membersToJson, List.forall_mem_cons, ← hypothesis]
      constructor
      · rintro ⟨⟩
        next here behind => exact ⟨here, behind⟩
      · rintro ⟨here, behind⟩
        exact .cons here behind

/-- A number that a literal writes is read as what it becomes, unless it becomes nothing. -/
theorem readsAs_toJson_number_iff
    {number : Number}
    (isOfLiteral : number.IsOfLiteral) :
    (Value.number number).ReadsAs (Value.number number).toJson ↔ number.isBelowWord = false := by
  obtain ⟨read, reads, bounded⟩ := isOfLiteral.exists_readsAs
  rw [toJson, bounded]
  cases number.isBelowWord with
  | true =>
      refine iff_of_false ?_ Bool.noConfusion
      rintro ⟨⟩
  | false => exact iff_of_true (.number reads) rfl

/-- A value is read as what it becomes exactly where it holds no integer that becomes nothing. -/
theorem readsAs_toJson_iff
    {value : Value}
    (written : ∀ number, value.Holds number → number.IsOfLiteral) :
    value.ReadsAs value.toJson ↔ ∀ number, value.Holds number → number.isBelowWord = false := by
  induction value using nestedInduction with
  | null => exact iff_of_true .null (by rintro _ ⟨⟩)
  | bool => exact iff_of_true .bool (by rintro _ ⟨⟩)
  | string => exact iff_of_true .string (by rintro _ ⟨⟩)
  | number number =>
      simp only [holds_number_iff, forall_eq]
      exact readsAs_toJson_number_iff (written number .number)
  | list items hypothesis =>
      have parts (item : Value) (member : item ∈ items) :=
        hypothesis item member fun number holds => written number (.item member holds)
      have whole : (list items).ReadsAs (list items).toJson ↔
          ItemsReadAs items (itemsToJson items) := by
        rw [toJson]
        exact ⟨fun | .list reads => reads, .list⟩
      rw [whole, itemsReadAs_itemsToJson_iff]
      constructor
      · intro reads number holds
        obtain ⟨item, member, holds⟩ := holds_list_iff.mp holds
        exact (parts item member).mp (reads item member) number holds
      · intro above item member
        exact (parts item member).mpr fun number holds => above number (.item member holds)
  | object members hypothesis =>
      have parts (member : String × Value) (inMembers : member ∈ members) :=
        hypothesis member inMembers fun number holds => written number (.member inMembers holds)
      have whole : (object members).ReadsAs (object members).toJson ↔
          MembersReadAs members (membersToJson members) := by
        rw [toJson]
        exact ⟨fun | .object reads => reads, .object⟩
      rw [whole, membersReadAs_membersToJson_iff]
      constructor
      · intro reads number holds
        obtain ⟨member, inMembers, holds⟩ := holds_object_iff.mp holds
        exact (parts member inMembers).mp (reads member inMembers) number holds
      · intro above member inMembers
        exact (parts member inMembers).mpr fun number holds =>
          above number (.member inMembers holds)

end Value

end InitializerJson
