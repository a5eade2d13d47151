import Rearrangement.Problem
import Rearrangement.Text

/-!
# The passes over a problem file

A problem file is read in four passes: comments are taken out, the section of initial facts is
found, its end is found, and what stands in innermost parentheses is split into words.

For each pass this file says two things: what it makes of a text that is put together from parts, so
that a text can be followed part by part, and what cannot occur in its result.  The first is what
the printed problem files need, whose lines are known; the second is what holds of all texts.

* `words_spaced` : words without blanks, written with a space between them, are read as they are;
* `mem_words` : words are never empty and hold no blanks, and no characters that were not there;
* `legible_initRelations` : the ids of the relations that are read are words without parentheses and
  semicolons, whatever the text.
-/

namespace Rearrangement.Text

/-! ## Words and blanks -/

variable {c : Char} {cs w r word : List Char}

/-- Characters that are not blank only add to the word begun. -/
theorem words_go_append (h : ∀ c ∈ w, isBlank c = false) (word r : List Char) :
    words.go word (w ++ r) = words.go (w.reverse ++ word) r := by
  induction w generalizing word with
  | nil => rfl
  | cons c w ih =>
    have hc : ¬isBlank c = true := Bool.eq_false_iff.1 (h c List.mem_cons_self)
    rw [List.cons_append, words.go, if_neg hc, ih fun d hd ↦ h d (List.mem_cons_of_mem c hd),
      List.reverse_cons, List.append_assoc]
    rfl

/-- A text without blanks is one word. -/
theorem words_of_forall (hne : w ≠ []) (h : ∀ c ∈ w, isBlank c = false) : words w = [w] := by
  have hgo := words_go_append h [] []
  rw [List.append_nil, List.append_nil] at hgo
  rw [words, hgo, words.go, if_neg (by simpa using hne), List.reverse_reverse]

/-- A word ends at a blank. -/
theorem words_append_blank (hne : w ≠ []) (h : ∀ c ∈ w, isBlank c = false) (hc : isBlank c)
    (r : List Char) : words (w ++ c :: r) = w :: words r := by
  rw [words, words_go_append h, List.append_nil, words.go, if_pos hc, if_neg (by simpa using hne),
    List.reverse_reverse, words]

/-- Words are read as they are written. -/
theorem words_spaced {ws : List (List Char)} (hne : w ≠ []) (hw : ∀ c ∈ w, isBlank c = false)
    (hws : ∀ v ∈ ws, v ≠ [] ∧ ∀ c ∈ v, isBlank c = false) :
    words (w ++ ws.flatMap (' ' :: ·)) = w :: ws := by
  induction ws generalizing w with
  | nil =>
    rw [List.flatMap_nil, List.append_nil]
    exact words_of_forall hne hw
  | cons v ws ih =>
    obtain ⟨⟨hne', hv⟩, hws⟩ := List.forall_mem_cons.1 hws
    rw [List.flatMap_cons, List.cons_append, words_append_blank hne hw rfl, ih hne' hv hws]

/-- What holds of the characters of a text holds of those of its words, and these are no blanks. -/
theorem forall_mem_words_go {P : Char → Prop} (hword : ∀ c ∈ word, isBlank c = false ∧ P c)
    (hcs : ∀ c ∈ cs, P c) (h : w ∈ words.go word cs) :
    w ≠ [] ∧ ∀ c ∈ w, isBlank c = false ∧ P c := by
  induction cs generalizing word with
  | nil =>
    rw [words.go] at h
    split at h
    next => cases h
    next hne =>
      obtain rfl := List.mem_singleton.1 h
      exact ⟨by simpa using hne, fun c hc ↦ hword c (List.mem_reverse.1 hc)⟩
  | cons d cs ih =>
    obtain ⟨hd, hcs⟩ := List.forall_mem_cons.1 hcs
    rw [words.go] at h
    split at h
    next =>
      split at h
      next => exact ih (List.forall_mem_nil _) hcs h
      next hne =>
        obtain rfl | h := List.mem_cons.1 h
        · exact ⟨by simpa using hne, fun c hc ↦ hword c (List.mem_reverse.1 hc)⟩
        · exact ih (List.forall_mem_nil _) hcs h
    next hblank =>
      exact ih (List.forall_mem_cons.2 ⟨⟨Bool.eq_false_iff.2 hblank, hd⟩, hword⟩) hcs h

/-- Words are not empty and hold no blanks. -/
theorem mem_words (h : w ∈ words cs) : w ≠ [] ∧ ∀ c ∈ w, isBlank c = false ∧ c ∈ cs :=
  forall_mem_words_go (List.forall_mem_nil _) (fun _ hc ↦ hc) h

end Rearrangement.Text

namespace Rearrangement

/-! ## The four passes -/

open Text

namespace Problem

variable {c : Char} {cs l r g : List Char}

/-! ### Comments -/

/-- Comments end with their line. -/
theorem stripComments_go_line (inside : Bool) (l r : List Char) :
    stripComments.go inside (l ++ '\n' :: r) =
      stripComments.go inside l ++ '\n' :: stripComments.go false r := by
  induction l generalizing inside with
  | nil => rfl
  | cons c l ih =>
    simp only [List.cons_append, stripComments.go]
    split
    next => rw [ih, List.cons_append]
    next =>
      split
      next => exact ih true
      next => rw [ih, List.cons_append]

/-- A comment ends with its line. -/
theorem stripComments_line (l r : List Char) :
    stripComments (l ++ '\n' :: r) = stripComments l ++ '\n' :: stripComments r :=
  stripComments_go_line false l r

/-- No comment begins without a semicolon. -/
theorem stripComments_append (h : ';' ∉ l) (r : List Char) :
    stripComments (l ++ r) = l ++ stripComments r := by
  induction l with
  | nil => rfl
  | cons c l ih =>
    obtain ⟨hc, hl⟩ := not_or.1 (mt List.mem_cons.2 h)
    have hgo : stripComments (c :: (l ++ r)) = c :: stripComments (l ++ r) := by
      unfold stripComments
      rw [stripComments.go]
      split
      next => rfl
      next => rw [if_neg (by simpa using Ne.symm hc)]
    rw [List.cons_append, hgo, ih hl, List.cons_append]

theorem stripComments_of_not_mem (h : ';' ∉ l) : stripComments l = l := by
  have happend := stripComments_append h []
  rwa [List.append_nil, show stripComments [] = [] from rfl, List.append_nil] at happend

theorem sublist_stripComments_go (inside : Bool) (cs : List Char) :
    (stripComments.go inside cs).Sublist cs := by
  induction cs generalizing inside with
  | nil => exact .refl _
  | cons c cs ih =>
    rw [stripComments.go]
    split
    next => exact (ih false).cons_cons c
    next =>
      split
      next => exact (ih true).cons c
      next => exact (ih false).cons_cons c

/-- Comments are taken out and nothing is put in. -/
theorem sublist_stripComments (cs : List Char) : (stripComments cs).Sublist cs :=
  sublist_stripComments_go false cs

/-- No comment is left. -/
theorem not_mem_stripComments_go (inside : Bool) (cs : List Char) :
    ';' ∉ stripComments.go inside cs := by
  induction cs generalizing inside with
  | nil => exact List.not_mem_nil
  | cons c cs ih =>
    rw [stripComments.go]
    split
    next hc =>
      rw [hc]
      exact List.not_mem_cons_of_ne_of_not_mem (by decide) (ih false)
    next =>
      split
      next => exact ih true
      next hc =>
        refine List.not_mem_cons_of_ne_of_not_mem ?_ (ih false)
        rintro rfl
        simp at hc

/-! ### Where the section begins -/

/-- The section does not open in the text, whatever follows it. -/
def Passed (cs : List Char) : Prop := ∀ r, afterInit? (cs ++ r) = afterInit? r

theorem passed_nil : Passed [] := fun _ ↦ rfl

theorem Passed.append {ds : List Char} (h : Passed cs) (h' : Passed ds) : Passed (cs ++ ds) := by
  intro r
  rw [List.append_assoc, h, h']

theorem toLower_ne_open (h : c ≠ '(') : c.toLower ≠ '(' := by
  unfold Char.toLower
  split
  next hupper =>
    intro hlower
    have hval : c.val + ('a'.val - 'A'.val) = '('.val := congrArg Char.val hlower
    have hsum := congrArg UInt32.toNat hval
    have hlow : 65 ≤ c.val.toNat := UInt32.le_iff_toNat_le.1 hupper.1
    have hhigh : c.val.toNat ≤ 90 := UInt32.le_iff_toNat_le.1 hupper.2
    rw [UInt32.toNat_add] at hsum
    change (c.val.toNat + 32) % 4294967296 = 40 at hsum
    omega
  next => exact h

/-- What opens no group is passed over. -/
theorem passed_of_not_mem (h : '(' ∉ cs) : Passed cs := by
  induction cs with
  | nil => exact passed_nil
  | cons c cs ih =>
    obtain ⟨hc, hcs⟩ := not_or.1 (mt List.mem_cons.2 h)
    intro r
    have hmark : ((c :: (cs ++ r)).take initMark.length).map Char.toLower ≠ initMark := by
      intro hmark
      exact toLower_ne_open (Ne.symm hc) (List.cons.inj hmark).1
    rw [List.cons_append, afterInit?, if_neg hmark]
    exact ih hcs r

/-- The section is the end of the text. -/
theorem suffix_of_afterInit? (h : afterInit? cs = some r) : r <:+ cs := by
  induction cs with
  | nil => cases h
  | cons c cs ih =>
    rw [afterInit?] at h
    split at h
    next =>
      obtain rfl := Option.some.inj h
      exact List.drop_suffix _ _
    next => exact (ih h).trans (List.suffix_cons c cs)

/-! ### Where the section ends -/

/-- What is opened in the text is closed in it, and no more. -/
def Balanced (cs : List Char) : Prop :=
  ∀ depth r, untilClosed depth (cs ++ r) = cs ++ untilClosed depth r

theorem balanced_nil : Balanced [] := fun _ _ ↦ rfl

theorem Balanced.append {ds : List Char} (h : Balanced cs) (h' : Balanced ds) :
    Balanced (cs ++ ds) := by
  intro depth r
  rw [List.append_assoc, h, h', List.append_assoc]

/-- Characters other than brackets are kept as they are. -/
theorem untilClosed_cons (hopen : c ≠ '(') (hclose : c ≠ ')') (depth : Nat) (r : List Char) :
    untilClosed depth (c :: r) = c :: untilClosed depth r := by
  rw [untilClosed]
  · exact hopen
  · exact fun _ ↦ hclose
  · exact fun _ _ ↦ hclose

theorem balanced_of_not_mem (hopen : '(' ∉ cs) (hclose : ')' ∉ cs) : Balanced cs := by
  induction cs with
  | nil => exact balanced_nil
  | cons c cs ih =>
    obtain ⟨hc, hcs⟩ := not_or.1 (mt List.mem_cons.2 hopen)
    obtain ⟨hc', hcs'⟩ := not_or.1 (mt List.mem_cons.2 hclose)
    intro depth r
    rw [List.cons_append, untilClosed_cons (Ne.symm hc) (Ne.symm hc'), ih hcs hcs' depth r,
      List.cons_append]

/-- A group around what is balanced is balanced. -/
theorem Balanced.group (h : Balanced cs) : Balanced ('(' :: cs ++ [')']) := by
  intro depth r
  have hinside := h (depth + 1) (')' :: r)
  simp only [List.cons_append, List.append_assoc, List.nil_append, untilClosed]
  rw [hinside, untilClosed]

theorem prefix_untilClosed (depth : Nat) (cs : List Char) : untilClosed depth cs <+: cs := by
  fun_induction untilClosed depth cs with
  | case1 => exact List.prefix_rfl
  | case2 depth r ih => exact (List.prefix_cons_inj _).2 ih
  | case3 => exact List.nil_prefix
  | case4 depth r ih => exact (List.prefix_cons_inj _).2 ih
  | case5 depth c r _ _ _ ih => exact (List.prefix_cons_inj _).2 ih

/-! ### Groups -/

theorem groups_go_append (hopen : '(' ∉ cs) (hclose : ')' ∉ cs) (inner : Option (List Char))
    (r : List Char) :
    groups.go inner (cs ++ r) = groups.go (inner.map (cs.reverse ++ ·)) r := by
  induction cs generalizing inner with
  | nil => simp
  | cons c cs ih =>
    obtain ⟨hc, hcs⟩ := not_or.1 (mt List.mem_cons.2 hopen)
    obtain ⟨hc', hcs'⟩ := not_or.1 (mt List.mem_cons.2 hclose)
    rw [List.cons_append, groups.go, ih hcs hcs']
    · cases inner <;> simp
    · exact Ne.symm hc
    · exact Ne.symm hc'

/-- Characters other than brackets in front of the groups make no difference. -/
theorem groups_append (hopen : '(' ∉ cs) (hclose : ')' ∉ cs) (r : List Char) :
    groups (cs ++ r) = groups r := groups_go_append hopen hclose none r

/-- Parentheses that hold no others are a group. -/
theorem groups_group (hopen : '(' ∉ g) (hclose : ')' ∉ g) (r : List Char) :
    groups ('(' :: g ++ ')' :: r) = g :: groups r := by
  change groups.go (some []) (g ++ ')' :: r) = _
  rw [groups_go_append hopen hclose, Option.map_some, List.append_nil, groups.go,
    List.reverse_reverse, groups]

/-- What holds of the characters of a text holds of those of its groups, and these are no
parentheses. -/
theorem forall_mem_groups_go {P : Char → Prop} {inner : Option (List Char)}
    (hinner : ∀ g ∈ inner, ∀ c ∈ g, c ≠ '(' ∧ c ≠ ')' ∧ P c) (hcs : ∀ c ∈ cs, P c)
    (h : g ∈ groups.go inner cs) : ∀ c ∈ g, c ≠ '(' ∧ c ≠ ')' ∧ P c := by
  fun_induction groups.go inner cs with
  | case1 => cases h
  | case2 inner r ih =>
    refine ih ?_ (List.forall_mem_cons.1 hcs).2 h
    rintro _ ⟨⟩ c hc
    cases hc
  | case3 r g' ih =>
    obtain rfl | h := List.mem_cons.1 h
    · exact fun c hc ↦ hinner g' rfl c (List.mem_reverse.1 hc)
    · exact ih nofun (List.forall_mem_cons.1 hcs).2 h
  | case4 r ih => exact ih nofun (List.forall_mem_cons.1 hcs).2 h
  | case5 inner d r hopen hclose ih =>
    obtain ⟨hd, hr⟩ := List.forall_mem_cons.1 hcs
    refine ih ?_ hr h
    intro g' hg'
    obtain ⟨g₀, hg₀, rfl⟩ := Option.map_eq_some_iff.1 hg'
    exact List.forall_mem_cons.2 ⟨⟨hopen, hclose, hd⟩, hinner g₀ hg₀⟩

/-- Groups hold no brackets, and only characters of the text. -/
theorem forall_mem_groups {P : Char → Prop} (hcs : ∀ c ∈ cs, P c) (h : g ∈ groups cs) :
    ∀ c ∈ g, c ≠ '(' ∧ c ≠ ')' ∧ P c := by
  have hnone : ∀ g ∈ (none : Option (List Char)), ∀ c ∈ g, c ≠ '(' ∧ c ≠ ')' ∧ P c := nofun
  exact forall_mem_groups_go hnone hcs h

/-! ### Facts -/

/-- The objects that a fact is about. -/
def Fact.ids : Fact → List ObjectId
  | on object anchor | inside object anchor => [object, anchor]
  | closed container => [container]

/-- The words of the fact. -/
theorem Fact.mem_words_of_ofGroup? {f : Fact} (h : ofGroup? g = some f) {x : ObjectId}
    (hx : x ∈ f.ids) : x.toList ∈ words g := by
  unfold ofGroup? at h
  split at h
  next => cases h
  next head args hwords =>
    rw [hwords]
    refine List.mem_cons_of_mem _ ?_
    have hargs : x ∈ args.map String.ofList := by
      split at h
      case h_4 => cases h
      all_goals
        next heq =>
          rw [heq]
          obtain rfl := Option.some.inj h
          exact hx
    obtain ⟨w, hw, rfl⟩ := List.mem_map.1 hargs
    rwa [String.toList_ofList]

/-- The id can be written in a fact: it is a word without parentheses and semicolons. -/
structure Legible (id : ObjectId) : Prop where
  nonempty : id.toList ≠ []
  plain : ∀ c ∈ id.toList, isBlank c = false ∧ c ≠ '(' ∧ c ≠ ')' ∧ c ≠ ';'

instance (id : ObjectId) : Decidable (Legible id) :=
  decidable_of_iff
    (id.toList ≠ [] ∧ id.toList.all fun c ↦ isBlank c = false ∧ c ≠ '(' ∧ c ≠ ')' ∧ c ≠ ';')
    ⟨fun h ↦ ⟨h.1, fun c hc ↦ of_decide_eq_true (List.all_eq_true.1 h.2 c hc)⟩,
      fun h ↦ ⟨h.nonempty, List.all_eq_true.2 fun c hc ↦ decide_eq_true (h.plain c hc)⟩⟩

/-- What is read of any text is legible. -/
theorem legible_of_mem_initFacts {f : Fact} (h : f ∈ initFacts cs) : ∀ x ∈ f.ids, Legible x := by
  intro x hx
  unfold initFacts at h
  split at h
  next r hr =>
    obtain ⟨g, hg, hf⟩ := List.mem_filterMap.1 h
    have hr' : ∀ c ∈ untilClosed 0 r, c ≠ ';' := by
      rintro _ hc rfl
      exact not_mem_stripComments_go false cs
        ((suffix_of_afterInit? hr).subset ((prefix_untilClosed 0 r).subset hc))
    have hplain := forall_mem_groups hr' hg
    obtain ⟨hne, hword⟩ := mem_words (Fact.mem_words_of_ofGroup? hf hx)
    exact ⟨hne, fun c hc ↦ ⟨(hword c hc).1, hplain c (hword c hc).2⟩⟩
  next => cases h

end Problem

/-- All objects that relations are about. -/
def RelationSet.ids (r : RelationSet) : List ObjectId :=
  (r.on ++ r.inside).flatMap (fun p ↦ [p.object, p.anchor]) ++ r.closed

namespace Problem

theorem exists_fact_of_mem_ids {fs : List Fact} {x : ObjectId} (h : x ∈ (relationsOf fs).ids) :
    ∃ f ∈ fs, x ∈ f.ids := by
  unfold RelationSet.ids at h
  rw [List.mem_append, List.mem_flatMap] at h
  obtain ⟨p, hp, hx⟩ | hx := h
  · obtain hp | hp := List.mem_append.1 hp
    all_goals
      obtain ⟨f, hf, hfact⟩ := List.mem_filterMap.1 hp
      refine ⟨f, hf, ?_⟩
      cases f <;> cases hfact
      exact hx
  · obtain ⟨f, hf, hfact⟩ := List.mem_filterMap.1 hx
    refine ⟨f, hf, ?_⟩
    cases f <;> cases hfact
    exact List.mem_singleton_self _

/-- Whatever the text, the relations that are read can be written. -/
theorem legible_initRelations (text : String) : ∀ x ∈ (initRelations text).ids, Legible x := by
  intro x hx
  obtain ⟨f, hf, hx⟩ := exists_fact_of_mem_ids hx
  exact legible_of_mem_initFacts hf x hx

end Problem

end Rearrangement
