import Rearrangement.Proofs.Problem.Element

/-!
# What the section of initial facts asserts

The section holds the elements between its opening and the parenthesis that closes it; the facts
among them are what it asserts.  What is read are these facts and all facts that stand inside other
elements, so a fact that the section denies is read as if it was asserted
(`initRelations_eq_iff_nested`).

## Main statements

* `afterInit?_eq_some_iff`: where the section begins.
* `initFacts_eq_facts`: what is read of a text.
* `initRelations_eq_iff_nested`: the relations are those that the section asserts exactly if nothing
  is nested in its elements.
* `initRelations_denied`: a fact that is denied and read.

Both sides of the equivalence are about the same elements, which exist for every text.  The lengths
of the two lists of facts differ as soon as anything is nested, and so do the relations, since each
fact is one of them (`length_relationsOf`).
-/

namespace Rearrangement.Problem

open Text

variable {cs r r' before mark : List Char}

/-! ## The opening -/

/-- The opening of the section, in letters of any case. -/
def IsMark (mark : List Char) : Prop := mark.map Char.toLower = initMark

theorem IsMark.length_eq (h : IsMark mark) : mark.length = initMark.length := by
  rw [← h, List.length_map]

/-- The section opens first where `r` begins. -/
structure Opens (cs r : List Char) : Prop where
  occurs : ∃ before mark, cs = before ++ mark ++ r ∧ IsMark mark
  first : ∀ {before mark r'}, cs = before ++ mark ++ r' → IsMark mark → r'.length ≤ r.length

/-- A section begins where its mark does. -/
theorem occurs_of_afterInit? (h : afterInit? cs = some r) :
    ∃ before mark, cs = before ++ mark ++ r ∧ IsMark mark := by
  induction cs with
  | nil => cases h
  | cons c cs ih =>
    rw [afterInit?] at h
    split at h
    next hmark =>
      obtain rfl := Option.some.inj h
      exact ⟨[], _, (List.take_append_drop initMark.length (c :: cs)).symm, hmark⟩
    next =>
      obtain ⟨before, mark, rfl, hmark⟩ := ih h
      exact ⟨c :: before, mark, rfl, hmark⟩

/-- Where the mark occurs a section begins, there or before. -/
theorem exists_afterInit? (before : List Char) (hmark : IsMark mark) (r' : List Char) :
    ∃ r, afterInit? (before ++ mark ++ r') = some r ∧ r'.length ≤ r.length := by
  have hlength := hmark.length_eq
  induction before with
  | nil =>
    obtain _ | ⟨c, mark⟩ := mark
    case nil => cases hlength
    refine ⟨r', ?_, Nat.le_refl _⟩
    have hmark' : (c :: mark).map Char.toLower = initMark := hmark
    rw [List.nil_append, List.cons_append, afterInit?, ← List.cons_append, ← hlength,
      List.take_left, List.drop_left, if_pos hmark']
  | cons c before ih =>
    rw [List.cons_append, List.cons_append, afterInit?]
    split
    next =>
      refine ⟨_, rfl, ?_⟩
      rw [List.length_drop, List.length_cons, List.length_append, List.length_append]
      omega
    next => exact ih

/-- The section is found where it opens first. -/
theorem afterInit?_eq_some_iff : afterInit? cs = some r ↔ Opens cs r := by
  constructor
  · intro h
    refine ⟨occurs_of_afterInit? h, ?_⟩
    rintro before mark r' rfl hmark
    obtain ⟨r₀, hr₀, hle⟩ := exists_afterInit? before hmark r'
    obtain rfl := Option.some.inj (h.symm.trans hr₀)
    exact hle
  · intro h
    obtain ⟨before, mark, hcs, hmark⟩ := h.occurs
    obtain ⟨r₀, hr₀, hle⟩ := exists_afterInit? before hmark r
    rw [← hcs] at hr₀
    obtain ⟨before₀, mark₀, hcs₀, hmark₀⟩ := occurs_of_afterInit? hr₀
    have hsuffix : r <:+ cs := ⟨before ++ mark, hcs.symm⟩
    have hsuffix₀ : r₀ <:+ cs := ⟨before₀ ++ mark₀, hcs₀.symm⟩
    have hlength : r.length = r₀.length := Nat.le_antisymm hle (h.first hcs₀ hmark₀)
    obtain rfl := (List.suffix_of_suffix_length_le hsuffix hsuffix₀ hle).eq_of_length hlength
    exact hr₀

/-! ## The facts -/

section Facts

open Element

variable {es : List Element}

/-- Without a section there are no facts. -/
theorem initFacts_eq_nil (h : ∀ r, ¬Opens (stripComments cs) r) : initFacts cs = [] := by
  unfold initFacts
  split
  next r hr => exact absurd (afterInit?_eq_some_iff.1 hr) (h r)
  next => rfl

/-- What is read are the facts among the elements of the section and inside them, in order. -/
theorem initFacts_eq_facts (hr : Opens (stripComments cs) r) (hes : Encloses r es) :
    initFacts cs = facts es := by
  rw [initFacts, afterInit?_eq_some_iff.2 hr]
  exact hes.filterMap_groups

/-- Every fact is one of the relations that it asserts. -/
theorem length_relationsOf (fs : List Fact) :
    (relationsOf fs).on.length + (relationsOf fs).inside.length + (relationsOf fs).closed.length =
      fs.length := by
  induction fs with
  | nil => rfl
  | cons f fs ih =>
    cases f
    all_goals
      simp only [relationsOf, List.filterMap_cons, List.length_cons] at ih ⊢
      omega

theorem length_facts (es : List Element) :
    (facts es).length = (es.filterMap fact?).length + (es.flatMap nested).length := by
  induction es with
  | nil => rfl
  | cons e es ih =>
    rw [facts, List.filterMap_cons, List.flatMap_cons]
    cases e.fact? <;> simp [ih] <;> omega

/-- If nothing is nested, facts are read element by element. -/
theorem facts_eq_filterMap (h : es.flatMap nested = []) : facts es = es.filterMap fact? := by
  induction es with
  | nil => rfl
  | cons e es ih =>
    rw [List.flatMap_cons, List.append_eq_nil_iff] at h
    rw [facts, h.1, List.append_nil, ih h.2, List.filterMap_cons]
    cases e.fact? <;> rfl

/-- For every text, what is read are the facts among the elements of the section and those inside
them, in order.  It is what the section asserts, the facts among its elements, exactly if no fact
stands inside one of them. -/
theorem initRelations_eq_iff_nested (text : String) :
    ((∀ r, ¬Opens (stripComments text.toList) r) → initRelations text = relationsOf []) ∧
      (∀ r, Opens (stripComments text.toList) r → ∃ es, Encloses r es) ∧
      ∀ r es, Opens (stripComments text.toList) r → Encloses r es →
        initRelations text = relationsOf (facts es) ∧
          (initRelations text = relationsOf (es.filterMap fact?) ↔ es.flatMap nested = []) := by
  refine ⟨fun h ↦ ?_, fun r _ ↦ exists_encloses r, fun r es hr hes ↦ ?_⟩
  · rw [initRelations, initFacts_eq_nil h]
  · have hread : initRelations text = relationsOf (facts es) := by
      rw [initRelations, initFacts_eq_facts hr hes]
    refine ⟨hread, ?_⟩
    constructor
    · -- A fact that stands inside an element is read in addition to those among the elements.
      intro heq
      have hlength := length_relationsOf (facts es)
      rw [← hread, heq, length_relationsOf, length_facts] at hlength
      exact List.length_eq_zero_iff.1 (by omega)
    · intro hnested
      rw [hread, facts_eq_filterMap hnested]

/-- The section is headed in capitals and ends with the text, which breaks off inside a fact; one
fact stands in a comment. -/
theorem initRelations_eq_iff_nested_unclosed :
    let text := "(:INIT (On a b) ; (in c d)\n(closed c) (on x"
    let r := " (On a b) \n(closed c) (on x"
    let es : List Element :=
      [.group [.word ['O', 'n'], .word ['a'], .word ['b']],
        .group [.word ['c', 'l', 'o', 's', 'e', 'd'], .word ['c']],
        .cut [.word ['o', 'n'], .word ['x']]]
    Opens (stripComments text.toList) r.toList ∧ Encloses r.toList es ∧
      initRelations text = ⟨[⟨"a", "b"⟩], [], ["c"]⟩ := by
  intro text r es
  have hopens : Opens (stripComments text.toList) r.toList := afterInit?_eq_some_iff.1 (by decide)
  have hon := spells_spaced ['O', 'n'] [['a'], ['b']] (by decide) (by decide)
  have hclosed := spells_spaced ['c', 'l', 'o', 's', 'e', 'd'] [['c']] (by decide) (by decide)
  have hcut := spells_spaced ['o', 'n'] [['x']] (by decide) (by decide)
  have hes : Spells _ es := .blank (c := ' ') rfl <| .group hon (by decide) <|
    .blank (c := ' ') rfl <| .blank (c := '\n') rfl <| .group hclosed (by decide) <|
    .blank (c := ' ') rfl <| .cut hcut
  have hr : Encloses r.toList es := Eq.subst (motive := (Encloses · es)) (by decide) (.unclosed hes)
  exact ⟨hopens, hr, ((initRelations_eq_iff_nested text).2.2 _ es hopens hr).1⟩

/-- A fact that the section denies is read. -/
theorem initRelations_denied :
    let text := "(:init (not (on a b)))"
    let r := " (not (on a b)))"
    let es : List Element :=
      [.group [.word ['n', 'o', 't'], .group [.word ['o', 'n'], .word ['a'], .word ['b']]]]
    Opens (stripComments text.toList) r.toList ∧ Encloses r.toList es ∧
      initRelations text = ⟨[⟨"a", "b"⟩], [], []⟩ ∧
        relationsOf (es.filterMap fact?) = ⟨[], [], []⟩ := by
  intro text r es
  have hopens : Opens (stripComments text.toList) r.toList := afterInit?_eq_some_iff.1 (by decide)
  have hon := spells_spaced ['o', 'n'] [['a'], ['b']] (by decide) (by decide)
  have hnot : Plain ['n', 'o', 't'] := by decide
  have hes : Spells _ es := .blank (c := ' ') rfl <|
    .group (.word hnot (endsWord_cons rfl _) (.blank (c := ' ') rfl (.group hon (by decide) .nil)))
      (by decide) .nil
  have hr : Encloses r.toList es :=
    Eq.subst (motive := (Encloses · es)) (by decide) (.closed hes (by decide) [])
  exact ⟨hopens, hr, by decide, rfl⟩

end Facts

end Rearrangement.Problem
