import Rearrangement.Proofs.Relations.Update

/-!
# Motions that do not meddle with each other

When an object moves, the relations change in what they say of this object and of the containers
whose lid it is; all other facts stay, in the order in which they are (`Valid.sameApart_move`).  So
the motions of two objects do not meddle with each other.  Neither of them unsays what the other one
has said, and whichever comes first, the facts are the same in the end
(`sameFacts_move_move`).  It does not matter which lids the containers have: the containers of two
lids are different ones, even if a lid has several, is a container itself or its own lid.

## Main statements

* `tells_move`: what relations say after a motion.
* `Valid.sameApart_move`: what a motion leaves alone.
* `sameFacts_of_proper`: two motions of different objects commute.
* `sameFacts_move_move`: all of it, for valid relations and any lids.

The order in which facts are listed does depend on the order of the motions, so they are compared as
facts (`SameFacts`); apart from the two objects, though, the lists are the same.
-/

namespace Rearrangement

namespace LidMap

variable {lids : LidMap} {c l : ObjectId}

/-- A container has a lid exactly if the pair is among the entries. -/
theorem lidFor?_eq_some : lids.lidFor? c = some l ↔ (c, l) ∈ lids.entries := by
  obtain ⟨es, hsorted⟩ := lids
  change (es.find? _).map _ = _ ↔ _ ∈ es
  induction es with
  | nil => simp
  | cons e es ih =>
    obtain ⟨hfirst, hrest⟩ := List.pairwise_cons.1 hsorted
    rw [List.find?_cons, List.mem_cons]
    by_cases he : e.1 = c
    · -- no later entry is for the same container
      have hlater : (c, l) ∉ es := fun hmem ↦ String.lt_irrefl c (he ▸ hfirst (c, l) hmem)
      obtain ⟨d, k⟩ := e
      obtain rfl : d = c := he
      simp [hlater, eq_comm]
    · have hother : (c, l) ≠ e := fun h ↦ he (congrArg Prod.fst h).symm
      simp only [he, decide_false, hother, false_or]
      exact ih hrest

/-- The first container of a lid is one that has it. -/
theorem lidFor?_of_containerFor? (h : lids.containerFor? l = some c) : lids.lidFor? c = some l := by
  obtain ⟨e, he, rfl⟩ := Option.map_eq_some_iff.1 h
  have hlid : e.2 = l := by simpa using List.find?_some he
  exact lidFor?_eq_some.2 (hlid ▸ List.mem_of_find?_eq_some he)

end LidMap

/-- What the relations learn when an object moves: which one it is, by what kind of action, and what
it is put in, on or near; when a lid is moved, its container. -/
structure Motion where
  moved : ObjectId
  kind : ActionKind
  context : Option ObjectId
deriving DecidableEq, Repr

/-- If a container is opened or closed, it is with its own lid. -/
def Motion.Proper (lids : LidMap) (m : Motion) : Prop :=
  m.kind.isLidToggle → ∃ c ∈ m.context, lids.lidFor? c = some m.moved

namespace RelationSet

/-- The relations after a motion. -/
def move (r : RelationSet) (lids : LidMap) (m : Motion) : RelationSet :=
  r.update lids m.moved m.kind m.context

/-- What is not said of the object, nor of a container whose lid it is, is the same, in the same
order. -/
structure SameApart (lids : LidMap) (object : ObjectId) (r r' : RelationSet) : Prop where
  on : r'.on.filter (·.object ≠ object) = r.on.filter (·.object ≠ object)
  inside : r'.inside.filter (·.object ≠ object) = r.inside.filter (·.object ≠ object)
  closed : r'.closed.filter (lids.lidFor? · ≠ some object) =
    r.closed.filter (lids.lidFor? · ≠ some object)

/-- The same facts, in whatever order. -/
structure SameFacts (r r' : RelationSet) : Prop where
  on : r.on.Perm r'.on
  inside : r.inside.Perm r'.inside
  closed : r.closed.Perm r'.closed

/-- The relations say what a motion has them say: its object is where it was put and nowhere else,
what the motion closes is closed, and what it opens is open. -/
structure Tells (r : RelationSet) (lids : LidMap) (m : Motion) : Prop where
  on : r.on.filter (·.object = m.moved) = stacked m.moved m.kind m.context
  inside : r.inside.filter (·.object = m.moved) = nested m.moved m.kind m.context
  closes : ∀ c ∈ sealed lids m.moved m.kind m.context, c ∈ r.closed
  opens : ∀ c, Opens lids m.moved m.kind m.context c → c ∉ r.closed

variable {r r' : RelationSet} {lids : LidMap} {m n : Motion} {c object : ObjectId}

/-! ## What a motion is about -/

/-- Only the containers of the moved lid are opened. -/
theorem lidFor?_of_opens (hm : m.Proper lids) (h : Opens lids m.moved m.kind m.context c) :
    lids.lidFor? c = some m.moved := by
  rcases h with ⟨hfirst, -⟩ | ⟨hkind, hcontext⟩
  · exact LidMap.lidFor?_of_containerFor? hfirst
  · obtain ⟨d, hd, hlid⟩ := hm (by rw [hkind]; rfl)
    obtain rfl : d = c := Option.some.inj ((Option.mem_def.1 hd).symm.trans hcontext)
    exact hlid

theorem lidFor?_of_mem_sealed (h : c ∈ sealed lids m.moved m.kind m.context) :
    lids.lidFor? c = some m.moved := (mem_sealed.1 h).2.2

theorem object_of_mem_stacked {moved : ObjectId} {kind : ActionKind} {context : Option ObjectId}
    {p : Placement} (h : p ∈ stacked moved kind context) : p.object = moved := by
  have hfilter := filter_stacked moved kind context
  rw [List.filter_eq_nil_iff] at hfilter
  simpa using hfilter p h

theorem object_of_mem_nested {moved : ObjectId} {kind : ActionKind} {context : Option ObjectId}
    {p : Placement} (h : p ∈ nested moved kind context) : p.object = moved := by
  have hfilter := filter_nested moved kind context
  rw [List.filter_eq_nil_iff] at hfilter
  simpa using hfilter p h

/-! ## One motion -/

/-- The equations of the update, for a motion. -/
theorem tells_move (r : RelationSet) (lids : LidMap) (m : Motion) :
    (r.move lids m).Tells lids m where
  on := by
    rw [move, on_update, List.filter_append, List.filter_filter,
      List.filter_eq_self.2 fun p hp ↦ decide_eq_true (object_of_mem_stacked hp),
      List.filter_eq_nil_iff.2 (by simp), List.nil_append]
  inside := by
    rw [move, inside_update, List.filter_append, List.filter_filter,
      List.filter_eq_self.2 fun p hp ↦ decide_eq_true (object_of_mem_nested hp),
      List.filter_eq_nil_iff.2 (by simp), List.nil_append]
  closes c hc := mem_closed_update.2 (.inr hc)
  opens c hc hmem := by
    rcases mem_closed_update.1 hmem with ⟨-, hopens⟩ | hsealed
    · exact hopens hc
    · exact not_opens_of_mem_sealed hsealed hc

theorem Valid.move (h : r.Valid) (lids : LidMap) (m : Motion) : (r.move lids m).Valid := h.update

/-- A motion changes nothing but what is said of its object and of the containers of that lid. -/
theorem Valid.sameApart_move (h : r.Valid) (hm : m.Proper lids) :
    SameApart lids m.moved r (r.move lids m) where
  on := by
    rw [RelationSet.move, on_update, List.filter_append, filter_stacked, List.append_nil,
      List.filter_filter]
    exact List.filter_congr fun p _ ↦ Bool.and_self _
  inside := by
    rw [RelationSet.move, inside_update, List.filter_append, filter_nested, List.append_nil,
      List.filter_filter]
    exact List.filter_congr fun p _ ↦ Bool.and_self _
  closed := by
    have hkept : (r.closed.filter fun c ↦ ¬Opens lids m.moved m.kind m.context c).Nodup :=
      h.closed.sublist List.filter_sublist
    -- what is closed is a container of the moved lid, and so is what is opened
    have hclosed (cs : List ObjectId) (hcs : ∀ c ∈ cs, c ∈ sealed lids m.moved m.kind m.context) :
        cs.filter (lids.lidFor? · ≠ some m.moved) = [] :=
      List.filter_eq_nil_iff.2 fun c hc ↦ by simp [lidFor?_of_mem_sealed (hcs c hc)]
    rw [RelationSet.move, closed_update, distinct_append, distinct_of_nodup hkept,
      List.filter_append, List.filter_filter,
      hclosed _ fun c hc ↦ mem_distinct.1 (List.mem_filter.1 hc).1, List.append_nil]
    refine List.filter_congr fun c _ ↦ ?_
    by_cases hlid : lids.lidFor? c = some m.moved
    · simp [hlid]
    · have hopens : ¬Opens lids m.moved m.kind m.context c := fun ho ↦
        hlid (lidFor?_of_opens hm ho)
      simp [hlid, hopens]

/-! ## Two motions -/

/-- What was said of one object is still said after something has happened to another. -/
theorem Tells.of_sameApart (h : r.Tells lids m) (hm : m.Proper lids) (hne : m.moved ≠ object)
    (hsame : SameApart lids object r r') : r'.Tells lids m := by
  have hfilter (ps : List Placement) : (ps.filter (·.object ≠ object)).filter (·.object = m.moved) =
      ps.filter (·.object = m.moved) := by
    rw [List.filter_filter]
    refine List.filter_congr fun p _ ↦ ?_
    by_cases hp : p.object = m.moved
    · simp [hp, hne]
    · simp [hp]
  have hclosed {c : ObjectId} (hlid : lids.lidFor? c = some m.moved) :
      c ∈ r'.closed ↔ c ∈ r.closed := by
    have hother : lids.lidFor? c ≠ some object := fun ho ↦
      hne (Option.some.inj (hlid.symm.trans ho))
    have hmem := congrArg (c ∈ ·) hsame.closed
    simpa [List.mem_filter, hother] using hmem
  refine ⟨?_, ?_, fun c hc ↦ ?_, fun c hc ↦ ?_⟩
  · rw [← hfilter, hsame.on, hfilter]
    exact h.on
  · rw [← hfilter, hsame.inside, hfilter]
    exact h.inside
  · exact (hclosed (lidFor?_of_mem_sealed hc)).2 (h.closes c hc)
  · exact fun hmem ↦ h.opens c hc ((hclosed (lidFor?_of_opens hm hc)).1 hmem)

/-- The facts that are in a list without those of two objects, and the new ones of these objects. -/
theorem perm_of_two {ps ms ns : List Placement} (hne : m.moved ≠ n.moved)
    (hms : ∀ p ∈ ms, p.object = m.moved) (hns : ∀ p ∈ ns, p.object = n.moved) :
    ((ps.filter (·.object ≠ m.moved) ++ ms).filter (·.object ≠ n.moved) ++ ns).Perm
      ((ps.filter (·.object ≠ n.moved) ++ ns).filter (·.object ≠ m.moved) ++ ms) := by
  have hm : ms.filter (·.object ≠ n.moved) = ms :=
    List.filter_eq_self.2 fun p hp ↦ decide_eq_true (hms p hp ▸ hne)
  have hn : ns.filter (·.object ≠ m.moved) = ns :=
    List.filter_eq_self.2 fun p hp ↦ decide_eq_true (hns p hp ▸ hne.symm)
  rw [List.filter_append, List.filter_append, hm, hn, List.append_assoc, List.append_assoc]
  refine List.Perm.append ?_ List.perm_append_comm
  rw [List.filter_filter, List.filter_filter]
  exact List.Perm.of_eq (List.filter_congr fun p _ ↦ Bool.and_comm _ _)

/-- Two motions of different objects open and close what each of them does.  The right side is the
same for both orders, which is why they commute on `closed`. -/
theorem mem_closed_move_move (hn : n.Proper lids) (hne : m.moved ≠ n.moved) :
    c ∈ ((r.move lids m).move lids n).closed ↔
      (c ∈ r.closed ∧ ¬Opens lids m.moved m.kind m.context c ∧
          ¬Opens lids n.moved n.kind n.context c) ∨
        c ∈ sealed lids m.moved m.kind m.context ∨ c ∈ sealed lids n.moved n.kind n.context := by
  have happart (hsealed : c ∈ sealed lids m.moved m.kind m.context) :
      ¬Opens lids n.moved n.kind n.context c := fun ho ↦
    hne (Option.some.inj ((lidFor?_of_mem_sealed hsealed).symm.trans (lidFor?_of_opens hn ho)))
  rw [move, mem_closed_update, move, mem_closed_update, or_and_right, and_assoc,
    and_iff_left_of_imp happart, or_assoc]

/-- Proper motions of different objects may be made in either order. -/
theorem sameFacts_of_proper (hm : m.Proper lids) (hn : n.Proper lids) (hne : m.moved ≠ n.moved) :
    SameFacts ((r.move lids m).move lids n) ((r.move lids n).move lids m) where
  on := by
    rw [move, on_update, move, on_update, move, on_update, move, on_update]
    exact perm_of_two hne (fun _ ↦ object_of_mem_stacked) (fun _ ↦ object_of_mem_stacked)
  inside := by
    rw [move, inside_update, move, inside_update, move, inside_update, move, inside_update]
    exact perm_of_two hne (fun _ ↦ object_of_mem_nested) (fun _ ↦ object_of_mem_nested)
  closed := by
    have hnodup (r : RelationSet) (m : Motion) : (r.move lids m).closed.Nodup := by
      rw [move, closed_update]
      exact nodup_distinct _
    refine (List.perm_ext_iff_of_nodup (hnodup _ _) (hnodup _ _)).2 fun c ↦ ?_
    rw [mem_closed_move_move hn hne, mem_closed_move_move hm hne.symm]
    exact or_congr (and_congr_right fun _ ↦ and_comm) or_comm

/-- The motions of two objects do not meddle with each other: each leaves alone what is not said of
its own object, the facts are the same whichever comes first, and they say what both motions have
them say. -/
theorem sameFacts_move_move (hr : r.validate = .ok ()) (hm : m.Proper lids) (hn : n.Proper lids)
    (hne : m.moved ≠ n.moved) :
    let rm := r.move lids m
    let rn := r.move lids n
    (SameApart lids m.moved r rm ∧ SameApart lids n.moved r rn) ∧
      SameFacts (rm.move lids n) (rn.move lids m) ∧
        ∀ r' ∈ [rm.move lids n, rn.move lids m], r'.Tells lids m ∧ r'.Tells lids n := by
  intro rm rn
  have hvalid : r.Valid := validate_eq_ok.1 hr
  have hboth {m n : Motion} (hm : m.Proper lids) (hn : n.Proper lids) (hne : m.moved ≠ n.moved) :
      ((r.move lids m).move lids n).Tells lids m ∧ ((r.move lids m).move lids n).Tells lids n :=
    ⟨(tells_move r lids m).of_sameApart hm hne ((hvalid.move lids m).sameApart_move hn),
      tells_move _ lids n⟩
  refine ⟨⟨hvalid.sameApart_move hm, hvalid.sameApart_move hn⟩, sameFacts_of_proper hm hn hne, ?_⟩
  simp only [List.forall_mem_cons]
  exact ⟨hboth hm hn hne, (hboth hn hm hne.symm).symm, nofun⟩

/-- A pot is closed with a lid that is also the lid of a bowl, and has a cap itself, which is taken
off; a jar is its own lid. -/
theorem sameFacts_move_move_shared :
    let lids : LidMap := .ofList [("bowl", "lid"), ("jar", "jar"), ("lid", "cap"), ("pot", "lid")]
    let r : RelationSet := ⟨[⟨"lid", "table"⟩, ⟨"jar", "table"⟩], [⟨"cap", "jar"⟩],
      ["lid", "bowl", "jar"]⟩
    let m : Motion := ⟨"lid", .closeLid, some "pot"⟩
    let n : Motion := ⟨"cap", .openLid, some "lid"⟩
    (r.validate = .ok () ∧ m.Proper lids ∧ n.Proper lids ∧ m.moved ≠ n.moved) ∧
      SameFacts ((r.move lids m).move lids n) ((r.move lids n).move lids m) ∧
        ((r.move lids m).move lids n).closed = ["jar", "pot"] := by
  intro lids r m n
  have hr : r.validate = .ok () := validate_eq_ok.2 ⟨by decide, by decide⟩
  have hm : m.Proper lids := fun _ ↦ ⟨"pot", rfl, by decide +kernel⟩
  have hn : n.Proper lids := fun _ ↦ ⟨"lid", rfl, by decide +kernel⟩
  have hne : m.moved ≠ n.moved := by decide
  exact ⟨⟨hr, hm, hn, hne⟩, (sameFacts_move_move hr hm hn hne).2.1, by decide +kernel⟩

end RelationSet

end Rearrangement
