import InitializerJson.Site

namespace InitializerJson.Site

open Lexical List

/-!
# The order of sites

The sites of a source are the ways to divide its tokens in two with some behind.
They are listed by the number of tokens before them.
-/

/-- The sites behind some tokens are the ways to divide those that follow. -/
theorem mem_allFrom_iff
    {before tokens : List Token}
    {site : Site} :
    site ∈ allFrom before tokens ↔
      site.behind ≠ [] ∧
        ∃ passed, site.before = passed.reverse ++ before ∧ tokens = passed ++ site.behind := by
  induction tokens generalizing before with
  | nil =>
      simp only [allFrom, List.not_mem_nil, false_iff]
      rintro ⟨nonempty, passed, _, shape⟩
      exact nonempty (List.append_eq_nil_iff.mp shape.symm).2
  | cons token rest hypothesis =>
      rw [allFrom, List.mem_cons, hypothesis]
      constructor
      · rintro (rfl | ⟨nonempty, passed, divided, shape⟩)
        · exact ⟨List.cons_ne_nil token rest, [], rfl, rfl⟩
        · exact ⟨nonempty, token :: passed, by simp [divided], by simp [shape]⟩
      · rintro ⟨nonempty, passed, divided, shape⟩
        cases passed with
        | nil =>
            left
            rcases site with ⟨siteBefore, behind⟩
            simp_all
        | cons first others =>
            right
            rw [List.cons_append, List.cons.injEq] at shape
            obtain ⟨rfl, shape⟩ := shape
            exact ⟨nonempty, others, by simp [divided], shape⟩

/-- The sites of a source are the ways to divide its tokens. -/
theorem mem_all_iff
    {tokens : List Token}
    {site : Site} :
    site ∈ all tokens ↔ site.behind ≠ [] ∧ tokens = site.before.reverse ++ site.behind := by
  rw [all, mem_allFrom_iff]
  constructor
  · rintro ⟨nonempty, passed, divided, shape⟩
    exact ⟨nonempty, by simpa [divided] using shape⟩
  · rintro ⟨nonempty, shape⟩
    exact ⟨nonempty, site.before.reverse, by simp, shape⟩

/-- The tokens behind a site end the source. -/
theorem behind_suffix
    {tokens : List Token}
    {site : Site}
    (member : site ∈ all tokens) :
    site.behind <:+ tokens :=
  ⟨site.before.reverse, (mem_all_iff.mp member).2.symm⟩

/-- A site with more tokens at the end of the source. -/
def continued
    (site : Site)
    (more : List Token) :
    Site where
  before :=
    site.before
  behind :=
    site.behind ++ more

/-- The sites of a source that goes on are its own and those behind them. -/
theorem allFrom_append
    (before tokens more : List Token) :
    allFrom before (tokens ++ more) =
      (allFrom before tokens).map (continued · more) ++
        allFrom (tokens.reverse ++ before) more := by
  induction tokens generalizing before with
  | nil => rfl
  | cons token rest hypothesis =>
      rw [List.cons_append, allFrom, hypothesis, allFrom, List.map_cons, List.cons_append,
        List.reverse_cons, List.append_assoc]
      rfl

/-- A site comes before another one in the source. -/
def Precedes
    (first second : Site) :
    Prop :=
  first.before.length < second.before.length

instance : DecidableRel Precedes :=
  fun first second => inferInstanceAs (Decidable (first.before.length < second.before.length))

/-- Sites are listed in the order of the source. -/
theorem pairwise_allFrom
    (before tokens : List Token) :
    (allFrom before tokens).Pairwise Precedes := by
  induction tokens generalizing before with
  | nil => exact .nil
  | cons token rest hypothesis =>
      refine .cons (fun site member => ?_) (hypothesis (token :: before))
      obtain ⟨_, passed, divided, _⟩ := mem_allFrom_iff.mp member
      simp only [Precedes, divided, List.length_append, List.length_cons]
      omega

/-- A site that comes before another one is listed before it. -/
theorem pair_sublist_all
    {tokens : List Token}
    {first second : Site}
    (firstMember : first ∈ all tokens)
    (secondMember : second ∈ all tokens)
    (earlier : first.Precedes second) :
    [first, second] <+ all tokens := by
  have ordered := pairwise_allFrom [] tokens
  obtain ⟨front, rest, shape⟩ := List.append_of_mem firstMember
  rw [all] at shape secondMember
  rw [shape] at ordered secondMember
  obtain ⟨_, _, across⟩ := List.pairwise_append.mp ordered
  rcases List.mem_append.mp secondMember with inFront | here
  · exact absurd (across second inFront first List.mem_cons_self) (Nat.lt_asymm earlier)
  · rcases List.mem_cons.mp here with rfl | inRest
    · exact absurd earlier (Nat.lt_irrefl _)
    · rw [all, shape]
      exact ((List.singleton_sublist.mpr inRest).cons_cons first).trans
        (List.sublist_append_right front (first :: rest))

/-- The site before a suffix of the tokens. -/
def beforeSuffix
    (tokens place : List Token) :
    Site where
  before :=
    (taken tokens place).reverse
  behind :=
    place

/-- Some suffix makes a site wherever it has a token. -/
theorem beforeSuffix_mem_all
    {tokens place : List Token}
    (suffix : place <:+ tokens)
    (nonempty : place ≠ []) :
    beforeSuffix tokens place ∈ all tokens :=
  mem_all_iff.mpr ⟨nonempty, by simp [beforeSuffix, taken_append suffix]⟩

/-- The site of the value that is assigned at a site, behind the name and the sign. -/
def assignedValue
    (site : Site) :
    Site where
  before :=
    (site.behind.take 2).reverse ++ site.before
  behind :=
    site.behind.tail.tail

/-- The site of an assigned value is a site of the source wherever it has a token. -/
theorem assignedValue_mem_all
    {tokens : List Token}
    {site : Site}
    (member : site ∈ all tokens)
    (nonempty : site.assignedValue.behind ≠ []) :
    site.assignedValue ∈ all tokens := by
  obtain ⟨_, shape⟩ := mem_all_iff.mp member
  refine mem_all_iff.mpr ⟨nonempty, ?_⟩
  rw [shape]
  rcases site with ⟨before, behind⟩
  rcases behind with _ | ⟨first, _ | ⟨second, rest⟩⟩ <;> simp [assignedValue]

/-- The site before a longer suffix comes first. -/
theorem precedes_beforeSuffix
    {tokens outer inner : List Token}
    (outerSuffix : outer <:+ tokens)
    (innerSuffix : inner <:+ outer.tail)
    (nonempty : outer ≠ []) :
    (beforeSuffix tokens outer).Precedes (beforeSuffix tokens inner) := by
  have outerBound := outerSuffix.length_le
  have innerBound := innerSuffix.length_le
  have filled := List.length_pos_iff.mpr nonempty
  simp only [Precedes, beforeSuffix, taken, List.length_reverse, List.length_take,
    List.length_tail] at innerBound ⊢
  omega

end InitializerJson.Site
