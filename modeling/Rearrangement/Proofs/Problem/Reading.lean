import Rearrangement.Problem
import Rearrangement.Proofs.Problem.Init

/-!
# Problem files read back

What is written of relations is read as the relations.  The scene and its objects may have any names
without an opening parenthesis: they may end lines, close parentheses and begin comments, but the
section of initial facts begins on a line of its own, nothing before it opens one (`passed_header`),
and what follows it is not looked at.

## Main statements

* `stripComments_text`: comments are taken out line by line.
* `Fact.ofGroup?_spell`: a fact is read back.
* `passed_header`: nothing above the section is taken for it.
* `initFacts_render`: the facts of a printed problem, in order.
* `initRelations_render`: the relations of a printed problem, and of any text that can be written
  anew.

The names of objects come up above the section and inside the facts.  Above it they must not open a
parenthesis, and in a fact they must be legible; names that are read of any text are
(`legible_initRelations`), so that what has been read once can be written and read again.
-/

namespace Rearrangement.Problem

open Text

/-! ## Lines -/

section Lines

/-- Lines as they are written. -/
def text (ls : List String) : List Char := ls.flatMap fun l ↦ l.toList ++ ['\n']

/-- Lines as they are read, without their comments. -/
def code (ls : List String) : List Char := ls.flatMap fun l ↦ stripComments l.toList ++ ['\n']

theorem text_cons (l : String) (ls : List String) :
    text (l :: ls) = l.toList ++ ['\n'] ++ text ls := rfl

theorem code_cons (l : String) (ls : List String) :
    code (l :: ls) = stripComments l.toList ++ ['\n'] ++ code ls := rfl

theorem code_append (ls ls' : List String) : code (ls ++ ls') = code ls ++ code ls' :=
  List.flatMap_append

/-- Comments are taken out of a text line by line. -/
theorem stripComments_text (ls : List String) : stripComments (text ls) = code ls := by
  induction ls with
  | nil => rfl
  | cons l ls ih =>
    have htext : text (l :: ls) = l.toList ++ '\n' :: text ls := by
      change l.toList ++ ['\n'] ++ text ls = _
      rw [List.append_assoc]
      rfl
    rw [htext, stripComments_line, ih, code_cons, List.append_assoc]
    rfl

/-- A problem that is printed is its lines. -/
theorem toList_render {R : Type} (sceneId : String) (objects : List (SceneObject R))
    (r : RelationSet) : (render sceneId objects r).toList = text (lines sceneId objects r) := by
  rw [render, String.toList_join, List.flatMap_map, text]
  exact congrArg (List.flatMap · _) (funext fun l ↦ String.toList_append)

end Lines

/-! ## Facts -/

/-- The facts that relations assert, in the order in which they are written. -/
def factsOf (r : RelationSet) : List Fact :=
  r.on.map (fun p ↦ .on p.object p.anchor) ++ r.inside.map (fun p ↦ .inside p.object p.anchor) ++
    r.closed.map .closed

/-- Relations are told apart again by the heads of their facts. -/
theorem relationsOf_factsOf (r : RelationSet) : relationsOf (factsOf r) = r := by
  obtain ⟨on, inside, closed⟩ := r
  have hnone {α β : Type} (xs : List α) : xs.filterMap (fun _ ↦ (none : Option β)) = [] :=
    List.filterMap_eq_nil_iff.2 fun _ _ ↦ rfl
  have hsome (ps : List Placement) :
      ps.filterMap (fun p ↦ some (⟨p.object, p.anchor⟩ : Placement)) = ps := List.filterMap_some
  simp only [relationsOf, factsOf, List.filterMap_append, List.filterMap_map, Function.comp_def,
    hnone, hsome, List.filterMap_some, List.nil_append, List.append_nil]

namespace Fact

variable {f : Fact}

/-- The predicate of a fact. -/
def head : Fact → List Char
  | on _ _ => ['o', 'n']
  | inside _ _ => ['i', 'n']
  | closed _ => ['c', 'l', 'o', 's', 'e', 'd']

/-- A fact as it is written between parentheses. -/
def spell (f : Fact) : List Char := f.head ++ (f.ids.map String.toList).flatMap (' ' :: ·)

/-- The line with a fact. -/
def line : Fact → String
  | on object anchor => s!"    (on {object} {anchor})"
  | inside object anchor => s!"    (in {object} {anchor})"
  | closed container => s!"    (closed {container})"

theorem toList_line (f : Fact) :
    f.line.toList = [' ', ' ', ' ', ' '] ++ ('(' :: f.spell ++ [')']) := by
  cases f <;> simp [line, spell, head, ids, toString]

theorem plain_head (f : Fact) :
    ∀ c ∈ f.head, isBlank c = false ∧ c ≠ '(' ∧ c ≠ ')' ∧ c ≠ ';' := by
  cases f <;> simp [head, isBlank]

/-- Apart from the spaces between its words, nothing stands in a fact that could be misread. -/
theorem plain_spell (h : ∀ x ∈ f.ids, Legible x) :
    ∀ c ∈ f.spell, c ≠ '(' ∧ c ≠ ')' ∧ c ≠ ';' := by
  intro c hc
  obtain hc | hc := List.mem_append.1 hc
  · exact (f.plain_head c hc).2
  · obtain ⟨w, hw, hc⟩ := List.mem_flatMap.1 hc
    obtain ⟨x, hx, rfl⟩ := List.mem_map.1 hw
    obtain rfl | hc := List.mem_cons.1 hc
    · decide
    · exact ((h x hx).plain c hc).2

/-- A fact is read back from what is printed between its brackets. -/
theorem ofGroup?_spell (h : ∀ x ∈ f.ids, Legible x) : ofGroup? f.spell = some f := by
  have hwords : words f.spell = f.head :: f.ids.map String.toList := by
    refine words_spaced (by cases f <;> exact nofun) (fun c hc ↦ (f.plain_head c hc).1) ?_
    intro w hw
    obtain ⟨x, hx, rfl⟩ := List.mem_map.1 hw
    exact ⟨(h x hx).nonempty, fun c hc ↦ ((h x hx).plain c hc).1⟩
  rw [ofGroup?, hwords]
  cases f <;> simp [head, ids]

end Fact

/-! ## The section of initial facts -/

section Section

variable {fs : List Fact}

/-- The lines of facts hold no comments. -/
theorem code_facts (h : ∀ f ∈ fs, ∀ x ∈ f.ids, Legible x) :
    code (fs.map Fact.line) = text (fs.map Fact.line) := by
  induction fs with
  | nil => rfl
  | cons f fs ih =>
    obtain ⟨hf, hfs⟩ := List.forall_mem_cons.1 h
    have hplain : ';' ∉ f.line.toList := by
      rw [Fact.toList_line]
      have hspell : ';' ∉ f.spell := fun hmem ↦ (f.plain_spell hf _ hmem).2.2 rfl
      simp [hspell]
    rw [List.map_cons, code_cons, text_cons, stripComments_of_not_mem hplain, ih hfs]

/-- Printed facts are balanced, so the section does not end between them. -/
theorem balanced_facts (h : ∀ f ∈ fs, ∀ x ∈ f.ids, Legible x) :
    Balanced (text (fs.map Fact.line)) := by
  induction fs with
  | nil => exact balanced_nil
  | cons f fs ih =>
    obtain ⟨hf, hfs⟩ := List.forall_mem_cons.1 h
    have hspell : Balanced f.spell := balanced_of_not_mem
      (fun hmem ↦ (f.plain_spell hf _ hmem).1 rfl) fun hmem ↦ (f.plain_spell hf _ hmem).2.1 rfl
    have hline : Balanced f.line.toList := by
      rw [Fact.toList_line]
      exact (balanced_of_not_mem (by decide) (by decide)).append hspell.group
    rw [List.map_cons, text_cons]
    exact (hline.append (balanced_of_not_mem (by decide) (by decide))).append (ih hfs)

/-- Each line of a fact is one group. -/
theorem groups_facts (h : ∀ f ∈ fs, ∀ x ∈ f.ids, Legible x) (r : List Char) :
    groups (text (fs.map Fact.line) ++ r) = fs.map Fact.spell ++ groups r := by
  induction fs with
  | nil => rfl
  | cons f fs ih =>
    obtain ⟨hf, hfs⟩ := List.forall_mem_cons.1 h
    rw [List.map_cons, text_cons, Fact.toList_line]
    calc
      _ = groups ([' ', ' ', ' ', ' '] ++ ('(' :: f.spell ++ ')' :: (['\n'] ++
            (text (fs.map Fact.line) ++ r)))) := by simp
      _ = f.spell :: groups (['\n'] ++ (text (fs.map Fact.line) ++ r)) := by
        rw [groups_append (by decide) (by decide),
          groups_group (fun hmem ↦ (f.plain_spell hf _ hmem).1 rfl)
            fun hmem ↦ (f.plain_spell hf _ hmem).2.1 rfl]
      _ = f.spell :: (fs.map Fact.spell ++ groups r) := by
        rw [groups_append (by decide) (by decide), ih hfs]

theorem filterMap_ofGroup?_spell (h : ∀ f ∈ fs, ∀ x ∈ f.ids, Legible x) :
    (fs.map Fact.spell).filterMap Fact.ofGroup? = fs := by
  induction fs with
  | nil => rfl
  | cons f fs ih =>
    obtain ⟨hf, hfs⟩ := List.forall_mem_cons.1 h
    rw [List.map_cons, List.filterMap_cons, f.ofGroup?_spell hf, ih hfs]

end Section

/-! ## Before and after it -/

/-- The lines before the section. -/
def header {R : Type} (sceneId : String) (objects : List (SceneObject R)) : List String :=
  [s!"(define (problem {sceneId}-goal)", s!"  (:domain {domain})", "  (:objects"] ++
    objects.map (fun o ↦ s!"    {o.id} - {o.category.name}") ++ ["  )"]

/-- The lines after the facts. -/
def footer : List String :=
  ["  )", "  (:goal", "    (and", "      ;; Add goal conditions here", "    )", "  )", ")"]

theorem lines_eq {R : Type} (sceneId : String) (objects : List (SceneObject R)) (r : RelationSet) :
    lines sceneId objects r =
      header sceneId objects ++ "  (:init" :: ((factsOf r).map Fact.line ++ footer) := by
  simp [lines, header, footer, factsOf, Function.comp_def, Fact.line]

/-- A line of which only the beginning opens parentheses opens no section if its beginning does
not. -/
theorem passed_line {l : String} (opening rest : List Char) (hl : l.toList = opening ++ rest)
    (hcomment : ';' ∉ opening) (hopening : Passed opening) (hrest : '(' ∉ rest) :
    Passed (stripComments l.toList ++ ['\n']) := by
  rw [hl, stripComments_append hcomment, List.append_assoc]
  refine hopening.append ((passed_of_not_mem fun hmem ↦ ?_).append (passed_of_not_mem (by decide)))
  exact hrest ((sublist_stripComments rest).subset hmem)

theorem passed_code {ls : List String} (h : ∀ l ∈ ls, Passed (stripComments l.toList ++ ['\n'])) :
    Passed (code ls) := by
  induction ls with
  | nil => exact passed_nil
  | cons l ls ih =>
    obtain ⟨hl, hls⟩ := List.forall_mem_cons.1 h
    exact hl.append (ih hls)

/-- The reader passes over everything above the section. -/
theorem passed_header {R : Type} {sceneId : String} {objects : List (SceneObject R)}
    (hscene : '(' ∉ sceneId.toList) (hobjects : ∀ o ∈ objects, '(' ∉ o.id.toList) :
    Passed (code (header sceneId objects)) := by
  have hcategory (c : Category) : '(' ∉ c.name.toList := by cases c <;> decide
  refine passed_code (List.forall_mem_append.2 ⟨List.forall_mem_append.2 ⟨?_, ?_⟩, ?_⟩)
  · simp only [List.forall_mem_cons]
    refine ⟨?_, ?_, ?_, nofun⟩
    · refine passed_line "(define (problem ".toList (sceneId.toList ++ "-goal)".toList) ?_
        (by decide) (fun _ ↦ rfl) ?_
      · simp [toString]
      · simp [hscene]
    · exact passed_line "  (:domain ".toList "gripper-strips)".toList rfl (by decide) (fun _ ↦ rfl)
        (by decide)
    · exact passed_line "  (:objects".toList [] rfl (by decide) (fun _ ↦ rfl) (by decide)
  · intro l hl
    obtain ⟨o, ho, rfl⟩ := List.mem_map.1 hl
    refine passed_line [] (s!"    {o.id} - {o.category.name}").toList rfl (by decide) passed_nil ?_
    simp [toString, hobjects o ho, hcategory]
  · refine List.forall_mem_singleton.2 ?_
    exact passed_line [] "  )".toList rfl (by decide) passed_nil (by decide)

theorem mem_ids_of_mem_factsOf {r : RelationSet} {f : Fact} (hf : f ∈ factsOf r) {x : ObjectId}
    (hx : x ∈ f.ids) : x ∈ r.ids := by
  have hplaced {p : Placement} (hp : p ∈ r.on ++ r.inside) (hx : x ∈ [p.object, p.anchor]) :
      x ∈ r.ids := List.mem_append_left _ (List.mem_flatMap.2 ⟨p, hp, hx⟩)
  obtain hf | hf := List.mem_append.1 hf
  · obtain hf | hf := List.mem_append.1 hf
    · obtain ⟨p, hp, rfl⟩ := List.mem_map.1 hf
      exact hplaced (List.mem_append_left _ hp) hx
    · obtain ⟨p, hp, rfl⟩ := List.mem_map.1 hf
      exact hplaced (List.mem_append_right _ hp) hx
  · obtain ⟨c, hc, rfl⟩ := List.mem_map.1 hf
    obtain rfl := List.mem_singleton.1 hx
    exact List.mem_append_right _ hc

/-- The facts that are read of a printed problem are those that were printed, in their order. -/
theorem initFacts_render {R : Type} {sceneId : String} {objects : List (SceneObject R)}
    {r : RelationSet} (hscene : '(' ∉ sceneId.toList)
    (hobjects : ∀ o ∈ objects, '(' ∉ o.id.toList) (hr : ∀ x ∈ r.ids, Legible x) :
    initFacts (render sceneId objects r).toList = factsOf r := by
  have hfacts : ∀ f ∈ factsOf r, ∀ x ∈ f.ids, Legible x := fun f hf x hx ↦
    hr x (mem_ids_of_mem_factsOf hf hx)
  have hcode : stripComments (render sceneId objects r).toList =
      code (header sceneId objects) ++ ("  (:init".toList ++
        ('\n' :: (text ((factsOf r).map Fact.line) ++ code footer))) := by
    rw [toList_render, stripComments_text, lines_eq, code_append, code_cons, code_append,
      code_facts hfacts, stripComments_of_not_mem (by decide), List.append_assoc]
    rfl
  have hafter (cs : List Char) : afterInit? ("  (:init".toList ++ cs) = some cs := rfl
  have hsection : untilClosed 0 ('\n' :: (text ((factsOf r).map Fact.line) ++ code footer)) =
      ['\n'] ++ (text ((factsOf r).map Fact.line) ++ [' ', ' ']) := by
    have hfooter : untilClosed 0 (code footer) = [' ', ' '] := by decide
    rw [untilClosed_cons (by decide) (by decide), balanced_facts hfacts, hfooter]
    rfl
  have hgroups : groups ([' ', ' '] : List Char) = [] := rfl
  rw [initFacts, hcode, passed_header hscene hobjects, hafter]
  simp only [hsection]
  rw [groups_append (by decide) (by decide), groups_facts hfacts, hgroups, List.append_nil,
    filterMap_ofGroup?_spell hfacts]

/-- The relations that are read of any text can be written, and relations that can be written are
read as they are, whatever the scene and its objects are called, if no name opens a parenthesis. -/
theorem initRelations_render :
    (∀ text, ∀ x ∈ (initRelations text).ids, Legible x) ∧
      ∀ {R : Type} (sceneId : String) (objects : List (SceneObject R)) (r : RelationSet),
        '(' ∉ sceneId.toList → (∀ o ∈ objects, '(' ∉ o.id.toList) → (∀ x ∈ r.ids, Legible x) →
          initRelations (render sceneId objects r) = r := by
  refine ⟨legible_initRelations, fun sceneId objects r hscene hobjects hr ↦ ?_⟩
  rw [initRelations, initFacts_render hscene hobjects hr, relationsOf_factsOf]

/-- The scene and its object have names that close parentheses, begin comments and look like the
section, and the objects of the relations are called like predicates. -/
theorem initRelations_render_names :
    let o : SceneObject Float := ⟨")\n:init ;", "bowl", .container, ⟨0, 0, 1⟩, 0, ⟨2, 2, 2⟩, none⟩
    let r : RelationSet := ⟨[⟨"on", "ä"⟩], [⟨":init", "in"⟩, ⟨":init", "in"⟩], ["closed"]⟩
    ('(' ∉ "; :init)".toList ∧ '(' ∉ o.id.toList ∧ ∀ x ∈ r.ids, Legible x) ∧
      initRelations (render "; :init)" [o] r) = r := by
  intro o r
  have hscene : '(' ∉ "; :init)".toList := by decide
  have hobject : '(' ∉ o.id.toList := by decide
  have hr : ∀ x ∈ r.ids, Legible x := by decide
  exact ⟨⟨hscene, hobject, hr⟩, initRelations_render.2 _ [o] r hscene
    (List.forall_mem_singleton.2 hobject) hr⟩

end Rearrangement.Problem
