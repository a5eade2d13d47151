import Rearrangement.Proofs.Relations.Independent
import Rearrangement.Session.Basic

/-!
# Motions in a row

What becomes of the relations when motions follow one another that undo or repeat each other.

A container is closed at the end of the list, and stays there as long as no lid is moved
(`closed_moves`).  To open it takes it off the list again, and nothing else: what is closed is then
what was closed before, in the same order (`closed_reopened`).  This needs that no other container
is closed with the same lid, for the lid that is taken to close one of them leaves another.

While an object follows the pointer, the relations are updated with every preview, and always for
the same motion.  They are after the first update what they are after all of them (`move_move`), so
that it does not matter how many previews there have been (`update_repeated`).  This needs nothing
of the relations or the lids: facts may be repeated, and a lid may have several containers or be its
own.

## Main statements

* `closed_close`, `closed_open`: what closing and opening make of the list of closed containers.
* `closed_reopened`: closing, moving other things about, and opening again.
* `move_move`, `moves_replicate`: motions that are repeated.
* `update_repeated`: previews, on relations and on tables.
-/

namespace Rearrangement

/-! ## Closing a container and opening it again -/

/-- The motion has to do with no lid. -/
structure Motion.Lidless (lids : LidMap) (m : Motion) : Prop where
  kind : ¬m.kind.isLidToggle
  moved : ∀ c, lids.lidFor? c ≠ some m.moved

namespace RelationSet

/-- The relations after some motions, one after the other. -/
def moves (r : RelationSet) (lids : LidMap) (ms : List Motion) : RelationSet :=
  ms.foldl (fun r m ↦ r.move lids m) r

variable {r : RelationSet} {lids : LidMap} {m : Motion} {ms : List Motion} {c l : ObjectId}

/-- If nothing that is closed is opened, what is closed anew comes last. -/
theorem closed_move (hr : r.closed.Nodup) (hm : m.Proper lids)
    (hopen : ∀ d ∈ r.closed, lids.lidFor? d ≠ some m.moved) :
    (r.move lids m).closed = r.closed ++ sealed lids m.moved m.kind m.context := by
  have hkept : r.closed.filter (fun d ↦ ¬Opens lids m.moved m.kind m.context d) = r.closed :=
    List.filter_eq_self.2 fun d hd ↦ decide_eq_true fun hopens ↦
      hopen d hd (lidFor?_of_opens hm hopens)
  have hone : (sealed lids m.moved m.kind m.context).Nodup := by
    unfold sealed
    split
    · split <;> simp
    · exact .nil
  rw [move, closed_update, hkept, distinct_of_nodup]
  refine List.nodup_append.2 ⟨hr, hone, ?_⟩
  rintro d hd _ hsealed rfl
  exact hopen d hd (lidFor?_of_mem_sealed hsealed)

/-- To move what is no lid closes and opens nothing. -/
theorem closed_move_of_lidless (hr : r.closed.Nodup) (hm : m.Lidless lids) :
    (r.move lids m).closed = r.closed := by
  have hsealed : sealed lids m.moved m.kind m.context = [] :=
    List.eq_nil_iff_forall_not_mem.2 fun d hd ↦ hm.moved d (lidFor?_of_mem_sealed hd)
  rw [closed_move hr (fun hkind ↦ absurd hkind hm.kind) fun d _ ↦ hm.moved d, hsealed,
    List.append_nil]

/-- As long as no lid is moved, what is closed stays closed, and nothing else is. -/
theorem closed_moves (hr : r.closed.Nodup) (hms : ∀ m ∈ ms, m.Lidless lids) :
    (r.moves lids ms).closed = r.closed := by
  induction ms generalizing r with
  | nil => rfl
  | cons m ms ih =>
    obtain ⟨hm, hms⟩ := List.forall_mem_cons.1 hms
    have hclosed : (r.move lids m).closed = r.closed := closed_move_of_lidless hr hm
    exact (ih (hclosed ▸ hr) hms).trans hclosed

/-- A container that is closed with its lid comes last, if nothing else is closed with this lid. -/
theorem closed_close (hr : r.closed.Nodup) (hlid : lids.lidFor? c = some l)
    (hopen : ∀ d, lids.lidFor? d = some l → d ∉ r.closed) :
    (r.move lids ⟨l, .closeLid, some c⟩).closed = r.closed ++ [c] := by
  rw [closed_move hr (fun _ ↦ ⟨c, rfl, hlid⟩) fun d hd hd' ↦ hopen d hd' hd]
  simp [sealed, hlid]

/-- A container that comes last is taken off again, if nothing else is closed with its lid. -/
theorem closed_open {cs : List ObjectId} (hr : r.closed = cs ++ [c]) (hcs : cs.Nodup)
    (hlid : lids.lidFor? c = some l) (hopen : ∀ d, lids.lidFor? d = some l → d ∉ cs) :
    (r.move lids ⟨l, .openLid, some c⟩).closed = cs := by
  have hproper : (Motion.mk l .openLid (some c)).Proper lids := fun _ ↦ ⟨c, rfl, hlid⟩
  have hkept : cs.filter (fun d ↦ ¬Opens lids l .openLid (some c) d) = cs :=
    List.filter_eq_self.2 fun d hd ↦ decide_eq_true fun hopens ↦
      hopen d (lidFor?_of_opens hproper hopens) hd
  have hgone : [c].filter (fun d ↦ ¬Opens lids l .openLid (some c) d) = [] := by
    simp [Opens]
  rw [move, closed_update, hr, List.filter_append, hkept, hgone]
  simp only [sealed, List.append_nil]
  exact distinct_of_nodup hcs

/-- A container is closed with its lid, while none with this lid is closed.  Then it is closed, in
addition to what was, as long as no lid is moved; and once it is opened again, what is closed is
what was closed before, in the same order. -/
theorem closed_reopened (hr : r.validate = .ok ()) (hlid : lids.lidFor? c = some l)
    (hopen : ∀ d, lids.lidFor? d = some l → d ∉ r.closed) (hms : ∀ m ∈ ms, m.Lidless lids) :
    let closing := r.move lids ⟨l, .closeLid, some c⟩
    (∀ before, before <+: ms → (closing.moves lids before).isClosed c ∧
        (closing.moves lids before).closed = r.closed ++ [c]) ∧
      ((closing.moves lids ms).move lids ⟨l, .openLid, some c⟩).closed = r.closed := by
  intro closing
  have hvalid : r.Valid := validate_eq_ok.1 hr
  have hnow (before : List Motion) (hbefore : before <+: ms) :
      (closing.moves lids before).closed = r.closed ++ [c] :=
    (closed_moves (hvalid.move lids _).closed fun m hm ↦ hms m (hbefore.subset hm)).trans
      (closed_close hvalid.closed hlid hopen)
  refine ⟨fun before hbefore ↦ ⟨?_, hnow before hbefore⟩,
    closed_open (hnow ms (List.prefix_refl ms)) hvalid.closed hlid hopen⟩
  rw [isClosed, hnow before hbefore]
  simp

/-- A pot is closed with a lid that it shares with a bowl.  A cup is put on it and in a jar before
it is opened. -/
theorem closed_reopened_pot :
    let lids : LidMap := .ofList [("bowl", "lid"), ("jar", "cap"), ("pot", "lid")]
    let r : RelationSet := ⟨[⟨"lid", "pot"⟩], [⟨"cup", "jar"⟩], ["tin", "jar"]⟩
    let ms : List Motion := [⟨"cup", .putOn, some "pot"⟩, ⟨"pot", .move, none⟩,
      ⟨"cup", .putIn, some "bowl"⟩]
    (r.validate = .ok () ∧ lids.lidFor? "pot" = some "lid" ∧
        (∀ d, lids.lidFor? d = some "lid" → d ∉ r.closed) ∧ ∀ m ∈ ms, m.Lidless lids) ∧
      ((((r.move lids ⟨"lid", .closeLid, some "pot"⟩).moves lids ms).move lids
        ⟨"lid", .openLid, some "pot"⟩).closed = ["tin", "jar"]) := by
  intro lids r ms
  have hr : r.validate = .ok () := validate_eq_ok.2 ⟨by decide, by decide⟩
  have hlid : lids.lidFor? "pot" = some "lid" := by decide +kernel
  have hopen (d : ObjectId) (hd : lids.lidFor? d = some "lid") : d ∉ r.closed := by
    intro hclosed
    have hother : ∀ d ∈ r.closed, lids.lidFor? d ≠ some "lid" := by decide +kernel
    exact hother d hclosed hd
  have hms : ∀ m ∈ ms, m.Lidless lids := by
    have hkinds : ∀ m ∈ ms, ¬m.kind.isLidToggle := by decide
    have hlids : ∀ m ∈ ms, ∀ e ∈ lids.entries, e.2 ≠ m.moved := by decide +kernel
    exact fun m hm ↦ ⟨hkinds m hm, fun d hd ↦ hlids m hm _ (LidMap.lidFor?_eq_some.1 hd) rfl⟩
  exact ⟨⟨hr, hlid, hopen, hms⟩, (closed_reopened hr hlid hopen hms).2⟩

end RelationSet

/-! ## Motions that are repeated -/

namespace RelationSet

/-- From `r` to `r'` the relations have learnt of a motion.  Its object leaves where it was and
comes last where it is put; what the motion opens is open, and what it closes comes last unless it
was closed before. -/
structure Learns (lids : LidMap) (m : Motion) (r r' : RelationSet) : Prop where
  on : r'.on = r.on.filter (·.object ≠ m.moved) ++ stacked m.moved m.kind m.context
  inside : r'.inside = r.inside.filter (·.object ≠ m.moved) ++ nested m.moved m.kind m.context
  closed : r'.closed = distinct (r.closed.filter (¬Opens lids m.moved m.kind m.context ·) ++
    sealed lids m.moved m.kind m.context)
  tells : r'.Tells lids m

theorem learns_move (r : RelationSet) (lids : LidMap) (m : Motion) :
    Learns lids m r (r.move lids m) where
  on := on_update ..
  inside := inside_update ..
  closed := closed_update ..
  tells := tells_move r lids m

/-- A motion made twice is made once.  The three lists are compared by their equations, with the
update of the first motion in the place of the relations. -/
theorem move_move (r : RelationSet) (lids : LidMap) (m : Motion) :
    (r.move lids m).move lids m = r.move lids m := update_same ..

/-- So it is when it is made many times. -/
theorem moves_replicate (r : RelationSet) (lids : LidMap) (m : Motion) (n : Nat) :
    r.moves lids (List.replicate (n + 1) m) = r.move lids m := by
  induction n generalizing r with
  | zero => rfl
  | succ n ih =>
    calc
      _ = (r.move lids m).moves lids (List.replicate (n + 1) m) := rfl
      _ = (r.move lids m).move lids m := ih _
      _ = r.move lids m := move_move r lids m

end RelationSet

namespace Table

variable {R : Type}

/-- The table after an object has been put to some places, one after the other. -/
def places (t : Table R) (m : Motion) (ps : List (Pose R)) : Table R :=
  ps.foldl (fun t p ↦ t.place m.kind m.moved p m.context) t

/-- Placing an object again and again, wherever, is one motion to the relations. -/
theorem relations_places (t : Table R) (m : Motion) (ps : List (Pose R)) :
    (t.places m ps).relations = t.relations.moves t.lids (List.replicate ps.length m) := by
  induction ps generalizing t with
  | nil => rfl
  | cons p ps ih => exact ih _

end Table

namespace RelationSet

/-- The second update for a motion changes nothing, nor does any later one, and the first has
already told all there is.  So an object that is put to one place after the other is related as if
it had been put there once. -/
theorem update_repeated (r : RelationSet) (lids : LidMap) (m : Motion) :
    ((r.move lids m).move lids m = r.move lids m ∧ Learns lids m r (r.move lids m)) ∧
      (∀ n, r.moves lids (List.replicate (n + 1) m) = r.move lids m) ∧
        ∀ (R : Type) (t : Table R) (p : Pose R) (ps : List (Pose R)),
          (t.places m (p :: ps)).relations = t.relations.move t.lids m := by
  refine ⟨⟨move_move r lids m, learns_move r lids m⟩, moves_replicate r lids m, fun R t p ps ↦ ?_⟩
  rw [Table.relations_places, List.length_cons, moves_replicate]

end RelationSet

end Rearrangement
