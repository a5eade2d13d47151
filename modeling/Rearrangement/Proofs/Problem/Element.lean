import Rearrangement.Proofs.Problem.Init

/-!
# The elements of a text with parentheses

A text with parentheses is a sequence of words and of groups, and a group is again such a sequence.
`Spells` is the grammar of these texts, also of those that end before all groups are closed, and
every text has elements up to the first parenthesis that closes nothing (`exists_encloses`).  The
pass that looks for facts keeps no more than what follows the last opening parenthesis
(`groups.go`).  It finds the facts among the elements, and those inside them at any depth
(`Encloses.filterMap_groups`).

## Main statements

* `fact?_group`: a group of words states what its text is read as.
* `found_append`: the facts found in elements, wherever they stand.
* `Encloses.filterMap_groups`: what the pass finds up to the end of a section.
* `exists_encloses`: every text is covered by the grammar.

A group that holds other groups is never a fact, for the pass forgets what it has kept as soon as
another parenthesis opens (`kept`).  So the facts of a text are those of its groups of words, in the
order in which they close.
-/

namespace Rearrangement.Problem

open Text

variable {c : Char} {cs g r w : List Char}

/-! ## Elements -/

/-- What a text with parentheses consists of. -/
inductive Element
  /-- Characters that are neither blanks nor parentheses. -/
  | word (w : List Char)
  /-- An opening parenthesis, elements, and the parenthesis that closes it. -/
  | group (inner : List Element)
  /-- An opening parenthesis that nothing closes, and the elements up to the end of the text. -/
  | cut (inner : List Element)

namespace Element

def isWord : Element → Bool
  | word _ => true
  | _ => false

def isCut : Element → Bool
  | cut _ => true
  | _ => false

/-- The fact that an element states: its group is a known predicate, in letters of any case, and as
many words as the predicate takes. -/
def fact? : Element → Option Fact
  | group [word head, word a, word b] =>
      match String.ofList (head.map Char.toLower) with
      | "on" => some (.on (String.ofList a) (String.ofList b))
      | "in" => some (.inside (String.ofList a) (String.ofList b))
      | _ => none
  | group [word head, word a] =>
      match String.ofList (head.map Char.toLower) with
      | "closed" => some (.closed (String.ofList a))
      | _ => none
  | _ => none

mutual

/-- The facts that stand inside an element, at any depth, in order. -/
def nested : Element → List Fact
  | word _ => []
  | group inner => facts inner
  | cut inner => facts inner

/-- The facts among elements and inside them, at any depth, in order. -/
def facts : List Element → List Fact
  | [] => []
  | e :: es => e.fact?.toList ++ e.nested ++ facts es

end

variable {es inner : List Element}

/-- A group with anything in it but words is not a fact. -/
theorem fact?_eq_none (h : inner.all isWord = false) : (group inner).fact? = none := by
  unfold fact?
  split
  next heq => cases heq; cases h
  next heq => cases heq; cases h
  next => rfl

/-- A group of words states what its text is read as. -/
theorem fact?_group (g : List Char) : (group ((words g).map word)).fact? = Fact.ofGroup? g := by
  unfold Fact.ofGroup?
  obtain _ | ⟨head, _ | ⟨a, _ | ⟨b, _ | ⟨d, ws⟩⟩⟩⟩ := words g
  case nil => rfl
  case cons.nil => simp [fact?]
  case cons.cons.nil =>
    simp only [List.map_cons, List.map_nil, fact?]
    split <;> simp_all
  case cons.cons.cons.nil =>
    simp only [List.map_cons, List.map_nil, fact?]
    split <;> simp_all
  case cons.cons.cons.cons => simp [fact?]

/-- Nothing stands inside words. -/
theorem facts_eq_nil (h : es.all isWord) : facts es = [] := by
  induction es with
  | nil => rfl
  | cons e es ih =>
    rw [List.all_cons, Bool.and_eq_true] at h
    cases e with
    | word w => exact ih h.2
    | group inner => cases h.1
    | cut inner => cases h.1

end Element

/-! ## The grammar -/

/-- Characters that make up a word. -/
structure Plain (w : List Char) : Prop where
  nonempty : w ≠ []
  plain : ∀ c ∈ w, isBlank c = false ∧ c ≠ '(' ∧ c ≠ ')'

instance (w : List Char) : Decidable (Plain w) :=
  decidable_of_iff (w ≠ [] ∧ w.all fun c ↦ isBlank c = false ∧ c ≠ '(' ∧ c ≠ ')')
    ⟨fun h ↦ ⟨h.1, fun c hc ↦ of_decide_eq_true (List.all_eq_true.1 h.2 c hc)⟩,
      fun h ↦ ⟨h.nonempty, List.all_eq_true.2 fun c hc ↦ decide_eq_true (h.plain c hc)⟩⟩

namespace Plain

/-- A plain word has no blanks. -/
theorem not_isBlank (h : Plain w) : ∀ c ∈ w, isBlank c = false := fun c hc ↦ (h.plain c hc).1

theorem open_not_mem (h : Plain w) : '(' ∉ w := fun hmem ↦ (h.plain _ hmem).2.1 rfl

theorem close_not_mem (h : Plain w) : ')' ∉ w := fun hmem ↦ (h.plain _ hmem).2.2 rfl

end Plain

/-- A word ends before the text: at its end, at a blank or at a parenthesis. -/
def EndsWord (cs : List Char) : Prop := ∀ c ∈ cs.head?, isBlank c ∨ c = '(' ∨ c = ')'

theorem endsWord_cons (hc : isBlank c) (cs : List Char) : EndsWord (c :: cs) := by
  rintro _ ⟨⟩
  exact .inl hc

/-- The text consists of the elements. -/
inductive Spells : List Char → List Element → Prop
  | nil : Spells [] []
  | blank {c cs es} (hc : isBlank c) (h : Spells cs es) : Spells (c :: cs) es
  | word {w cs es} (hw : Plain w) (hcs : EndsWord cs) (h : Spells cs es) :
      Spells (w ++ cs) (.word w :: es)
  | group {g inner cs es} (hg : Spells g inner) (hinner : ∀ e ∈ inner, e.isCut = false)
      (h : Spells cs es) : Spells ('(' :: g ++ ')' :: cs) (.group inner :: es)
  | cut {g inner} (hg : Spells g inner) : Spells ('(' :: g) [.cut inner]

/-- Words with spaces between them are the elements of a text. -/
theorem spells_spaced (w : List Char) (ws : List (List Char)) (hw : Plain w)
    (hws : ∀ v ∈ ws, Plain v) : Spells (w ++ ws.flatMap (' ' :: ·)) (.word w :: ws.map .word) := by
  induction ws generalizing w with
  | nil => exact .word hw nofun .nil
  | cons v ws ih =>
    obtain ⟨hv, hws⟩ := List.forall_mem_cons.1 hws
    exact .word hw (endsWord_cons rfl _) (.blank rfl (ih v hv hws))

theorem not_mem_of_isBlank (hc : isBlank c) : '(' ∉ [c] ∧ ')' ∉ [c] := by
  constructor
  all_goals
    intro hmem
    obtain rfl := List.mem_singleton.1 hmem
    exact absurd hc (by decide)

namespace Spells

open Element

variable {es inner : List Element}

/-- A text of words holds no parentheses, and its elements are its words. -/
theorem words_eq (h : Spells cs es) (hwords : es.all isWord) :
    ('(' ∉ cs ∧ ')' ∉ cs) ∧ es = (words cs).map .word := by
  induction h with
  | nil => exact ⟨⟨List.not_mem_nil, List.not_mem_nil⟩, rfl⟩
  | @blank c cs es hc h ih =>
    obtain ⟨⟨hopen, hclose⟩, hes⟩ := ih hwords
    obtain ⟨hopen', hclose'⟩ := not_mem_of_isBlank hc
    refine ⟨⟨?_, ?_⟩, ?_⟩
    · exact List.not_mem_append hopen' hopen
    · exact List.not_mem_append hclose' hclose
    · rw [words, words.go, if_pos hc, hes]
      rfl
  | @word w cs es hw hcs h ih =>
    rw [List.all_cons, Bool.and_eq_true] at hwords
    obtain ⟨⟨hopen, hclose⟩, hes⟩ := ih hwords.2
    refine ⟨⟨?_, ?_⟩, ?_⟩
    · exact List.not_mem_append hw.open_not_mem hopen
    · exact List.not_mem_append hw.close_not_mem hclose
    · cases cs with
      | nil =>
        rw [hes, List.append_nil, words_of_forall hw.nonempty hw.not_isBlank]
        rfl
      | cons c cs =>
        obtain hc | rfl | rfl := hcs c rfl
        · rw [words_append_blank hw.nonempty hw.not_isBlank hc, hes, words, words.go, if_pos hc]
          rfl
        · exact absurd List.mem_cons_self hopen
        · exact absurd List.mem_cons_self hclose
  | group hg hinner h ihg ih => cases hwords
  | cut hg ih => cases hwords

/-! ## The end of the text -/

/-- Nothing is left open in a text whose elements all end. -/
theorem balanced (h : Spells cs es) (hes : ∀ e ∈ es, e.isCut = false) : Balanced cs := by
  induction h with
  | nil => exact balanced_nil
  | @blank c cs es hc h ih =>
    obtain ⟨hopen, hclose⟩ := not_mem_of_isBlank hc
    exact (balanced_of_not_mem hopen hclose).append (ih hes)
  | word hw hcs h ih =>
    have hbalanced := balanced_of_not_mem hw.open_not_mem hw.close_not_mem
    exact hbalanced.append (ih (List.forall_mem_cons.1 hes).2)
  | @group g inner cs es hg hinner h ihg ih =>
    have happend := (ihg hinner).group.append (ih (List.forall_mem_cons.1 hes).2)
    rwa [List.append_assoc] at happend
  | cut hg ih => exact absurd (hes _ (List.mem_singleton_self _)) (by simp [isCut])

/-- Nothing is closed in a text of the grammar that is not opened in it. -/
theorem untilClosed_eq (h : Spells cs es) (depth : Nat) : untilClosed depth cs = cs := by
  induction h generalizing depth with
  | nil => rw [untilClosed]
  | @blank c cs es hc h ih =>
    obtain ⟨hopen, hclose⟩ := not_mem_of_isBlank hc
    have hbalanced := balanced_of_not_mem hopen hclose depth cs
    rwa [ih] at hbalanced
  | @word w cs es hw hcs h ih =>
    rw [balanced_of_not_mem hw.open_not_mem hw.close_not_mem, ih]
  | @group g inner cs es hg hinner h ihg ih =>
    have hgroup := (hg.balanced hinner).group depth cs
    rw [List.append_assoc, ih] at hgroup
    rwa [List.append_assoc] at hgroup
  | cut hg ih => rw [untilClosed, ih]

/-! ## The facts that are found -/

/-- What has been kept of the open group after the elements: all of it if they are words, and
nothing if they are not. -/
def kept (es : List Element) (cs : List Char) (inner : Option (List Char)) : Option (List Char) :=
  if es.all isWord then inner.map (cs.reverse ++ ·) else none

/-- The facts that the groups of a text state, read on from the open group `inner`. -/
def found (inner : Option (List Char)) (cs : List Char) : List Fact :=
  (groups.go inner cs).filterMap Fact.ofGroup?

variable {open? : Option (List Char)}

/-- What has been read of an open group stays in front of what follows. -/
theorem kept_map (es : List Element) (w cs : List Char) (open? : Option (List Char)) :
    kept es cs (open?.map (w.reverse ++ ·)) = kept es (w ++ cs) open? := by
  unfold kept
  split
  next => cases open? <;> simp
  next => rfl

theorem kept_none (es : List Element) (cs : List Char) : kept es cs none = none := by
  unfold kept
  split <;> rfl

/-- Characters other than brackets only add to the open group. -/
theorem found_append_of_not_mem (hopen : '(' ∉ w) (hclose : ')' ∉ w)
    (open? : Option (List Char)) (r : List Char) :
    found open? (w ++ r) = found (open?.map (w.reverse ++ ·)) r :=
  congrArg (List.filterMap Fact.ofGroup?) (groups_go_append hopen hclose open? r)

/-- What is found where a group ends is the fact that it states. -/
theorem found_close (h : Spells g inner) (r : List Char) :
    facts inner ++ found (kept inner g (some [])) (')' :: r) =
      (Element.group inner).fact?.toList ++ facts inner ++ found none r := by
  unfold kept
  split
  next hwords =>
    -- A group of words has no facts inside, and its text is read as the fact that it states.
    have hfact : (Element.group inner).fact? = Fact.ofGroup? g := by
      rw [(h.words_eq hwords).2, fact?_group]
    rw [facts_eq_nil hwords, hfact]
    simp only [found, Option.map_some, groups.go, List.append_nil, List.reverse_reverse,
      List.filterMap_cons, List.nil_append]
    cases Fact.ofGroup? g <;> rfl
  next hwords =>
    rw [fact?_eq_none (by simpa using hwords)]
    rfl

/-- The facts found in whole elements come before those of what follows. -/
theorem found_append (h : Spells cs es) (hes : ∀ e ∈ es, e.isCut = false)
    (open? : Option (List Char)) (r : List Char) :
    found open? (cs ++ r) = facts es ++ found (kept es cs open?) r := by
  induction h generalizing open? r with
  | nil => simp [kept, facts]
  | @blank c cs es hc h ih =>
    obtain ⟨hopen, hclose⟩ := not_mem_of_isBlank hc
    have hstep := found_append_of_not_mem hopen hclose open? (cs ++ r)
    rw [ih hes, kept_map] at hstep
    exact hstep
  | @word w cs es hw hcs h ih =>
    rw [List.append_assoc, found_append_of_not_mem hw.open_not_mem hw.close_not_mem,
      ih (List.forall_mem_cons.1 hes).2, kept_map]
    rfl
  | @group g inner cs es hg hinner h ihg ih =>
    calc
      _ = found (some []) (g ++ ')' :: (cs ++ r)) := by
        rw [List.append_assoc, List.cons_append]
        rfl
      _ = facts inner ++ found (kept inner g (some [])) (')' :: (cs ++ r)) := ihg hinner _ _
      _ = (Element.group inner).fact?.toList ++ facts inner ++ found none (cs ++ r) :=
        found_close hg _
      _ = _ := by
        rw [ih (List.forall_mem_cons.1 hes).2, kept_none, facts, nested, List.append_assoc,
          List.append_assoc, List.append_assoc]
        rfl
  | cut hg ih => exact absurd (hes _ (List.mem_singleton_self _)) (by simp [isCut])

/-- At the end of the text a group that is still open does not count. -/
theorem found_eq (h : Spells cs es) (open? : Option (List Char)) : found open? cs = facts es := by
  induction h generalizing open? with
  | nil => rfl
  | @blank c cs es hc h ih =>
    obtain ⟨hopen, hclose⟩ := not_mem_of_isBlank hc
    exact (found_append_of_not_mem hopen hclose open? cs).trans (ih _)
  | @word w cs es hw hcs h ih =>
    rw [found_append_of_not_mem hw.open_not_mem hw.close_not_mem, ih]
    rfl
  | @group g inner cs es hg hinner h ihg ih =>
    have hgroup : Spells ('(' :: g ++ [')']) [.group inner] := .group hg hinner .nil
    calc
      _ = found open? ('(' :: g ++ [')'] ++ cs) := by rw [List.append_assoc]; rfl
      _ = facts [.group inner] ++ facts es := by
        rw [hgroup.found_append (List.forall_mem_singleton.2 rfl), ih]
      _ = _ := by rw [facts, facts, facts, List.append_nil]
  | cut hg ih => exact (ih _).trans (by rw [facts, facts, nested, List.append_nil]; rfl)

end Spells

/-! ## Up to the parenthesis that closes the group -/

/-- The elements that follow an opening parenthesis, up to the one that closes it or, if none does,
up to the end of the text. -/
inductive Encloses : List Char → List Element → Prop
  | closed {body es} (h : Spells body es) (hes : ∀ e ∈ es, e.isCut = false) (after : List Char) :
      Encloses (body ++ ')' :: after) es
  | unclosed {cs es} (h : Spells cs es) : Encloses cs es

namespace Encloses

variable {es : List Element}

/-- The facts that are found up to there are those among the elements and inside them. -/
theorem filterMap_groups (h : Encloses r es) :
    (groups (untilClosed 0 r)).filterMap Fact.ofGroup? = Element.facts es := by
  cases h with
  | closed h hes after =>
    rw [h.balanced hes, untilClosed, List.append_nil]
    exact h.found_eq none
  | unclosed h =>
    rw [h.untilClosed_eq]
    exact h.found_eq none

/-- What stands before the elements is read with them. -/
theorem prepend (h : Encloses cs es) (w : List Char) {es' : List Element}
    (hes' : ∀ e ∈ es', e.isCut = false)
    (hspells : ∀ {body es}, body <+: cs → Spells body es → Spells (w ++ body) (es' ++ es)) :
    Encloses (w ++ cs) (es' ++ es) := by
  cases h with
  | @closed body _ h hes after =>
    rw [← List.append_assoc]
    have hbody := hspells (List.prefix_append body _) h
    exact .closed hbody (List.forall_mem_append.2 ⟨hes', hes⟩) after
  | unclosed h => exact .unclosed (hspells List.prefix_rfl h)

end Encloses

theorem EndsWord.of_prefix (h : EndsWord cs) (hw : w <+: cs) : EndsWord w := by
  obtain ⟨t, rfl⟩ := hw
  cases w with
  | nil => exact nofun
  | cons c w => exact h

/-- A character that is neither blank nor a bracket makes a plain word longer. -/
theorem plain_cons (hblank : isBlank c = false) (hopen : c ≠ '(') (hclose : c ≠ ')')
    (hw : w = [] ∨ Plain w) : Plain (c :: w) := by
  refine ⟨List.cons_ne_nil c w, List.forall_mem_cons.2 ⟨⟨hblank, hopen, hclose⟩, ?_⟩⟩
  obtain rfl | hw := hw
  · exact List.forall_mem_nil _
  · exact hw.plain

/-- A text that does not begin with a blank or a parenthesis begins with a word. -/
theorem exists_plain (hblank : isBlank c = false) (hopen : c ≠ '(') (hclose : c ≠ ')')
    (r : List Char) : ∃ w cs, c :: r = w ++ cs ∧ Plain w ∧ EndsWord cs := by
  induction r generalizing c with
  | nil => exact ⟨[c], [], rfl, plain_cons hblank hopen hclose (.inl rfl), nofun⟩
  | cons d r ih =>
    by_cases hends : EndsWord (d :: r)
    · exact ⟨[c], d :: r, rfl, plain_cons hblank hopen hclose (.inl rfl), hends⟩
    · have hd : ¬(isBlank d ∨ d = '(' ∨ d = ')') := by simpa [EndsWord] using hends
      obtain ⟨hblank', hopen', hclose'⟩ := not_or.1 hd |>.imp_right not_or.1
      obtain ⟨w, cs, heq, hw, hcs⟩ := ih (Bool.eq_false_iff.2 hblank') hopen' hclose'
      exact ⟨c :: w, cs, congrArg (c :: ·) heq, plain_cons hblank hopen hclose (.inr hw), hcs⟩

/-- Every text has elements. -/
theorem exists_encloses (cs : List Char) : ∃ es, Encloses cs es := by
  match cs with
  | [] => exact ⟨[], .unclosed .nil⟩
  | c :: r =>
    by_cases hopen : c = '('
    · subst hopen
      obtain ⟨inner, h⟩ := exists_encloses r
      cases h with
      | unclosed h => exact ⟨[.cut inner], .unclosed (.cut h)⟩
      -- what follows the group is shorter than the text, but no part of the first recursion
      | @closed g _ hg hinner after =>
        obtain ⟨es, h⟩ := exists_encloses after
        have hgroup : Encloses (('(' :: g ++ [')']) ++ after) ([.group inner] ++ es) := by
          refine h.prepend _ (List.forall_mem_singleton.2 rfl) fun {body es} _ h ↦ ?_
          rw [List.append_assoc]
          exact .group hg hinner h
        rw [List.append_assoc] at hgroup
        exact ⟨_, hgroup⟩
    by_cases hclose : c = ')'
    · subst hclose
      exact ⟨[], .closed .nil (List.forall_mem_nil _) r⟩
    cases hblank : isBlank c with
    | true =>
      obtain ⟨es, h⟩ := exists_encloses r
      exact ⟨es, h.prepend [c] (List.forall_mem_nil _) fun _ h ↦ .blank hblank h⟩
    | false =>
      obtain ⟨w, cs, heq, hw, hcs⟩ := exists_plain hblank hopen hclose r
      have hlt : cs.length < (c :: r).length := by
        rw [heq, List.length_append]
        exact Nat.lt_add_of_pos_left (List.length_pos_iff.2 hw.nonempty)
      obtain ⟨es, h⟩ := exists_encloses cs
      rw [heq]
      have hword : ∀ e ∈ [Element.word w], e.isCut = false := List.forall_mem_singleton.2 rfl
      exact ⟨_, h.prepend w hword fun hbody h ↦ .word hw (hcs.of_prefix hbody) h⟩
termination_by cs.length
decreasing_by
  all_goals simp_all <;> omega

end Rearrangement.Problem
