import Rearrangement.CommandLine.Client
import Rearrangement.Proofs.Binary64.Range
import Rearrangement.Proofs.Session.Journal
import Rearrangement.Proofs.Session.Valid
import Rearrangement.Proofs.Table.Measured

/-!
# Replaying what has been replayed

Replay corrects the poses of what was recorded: objects that follow others go where they belong, and
dragged ones are kept inside the world rectangle.  Doing so once is enough.  An action that has been
corrected is left alone when it is replayed in its place (`replay_again`), and so replaying all that
a replay has recorded comes to the same session (`Accepts.again`).  Of finite doubles no correction
is ever found necessary the second time (`replayIn_trajectory`).

## Main statements

* `Table.Replays.again`, `replay_again`: a corrected action is replayed as it is.
* `Accepts.again`: so are corrected actions in a row.
* `replayIn_trajectory`: from any bundle of finite doubles, with the warnings that are given.

That nothing is corrected again is shown over any coordinates: clamping what has been clamped, and
placing what has been placed, gives the same number.  Doubles come in only for the warnings, which
compare poses as numbers, so that one that is not a number would differ from itself.
-/

namespace Rearrangement

open Scalar

variable {R : Type}

/-- What an action is, wherever it puts its object. -/
def Action.shape (a : Action R) : ActionKind × ObjectId × Option ObjectId :=
  (a.kind, a.object, a.reference)

variable [Scalar R]

/-- Where replay puts the object of an action, it puts it again. -/
theorem Table.Replays.again [LawfulScalar R] {t : Table R} {w : World R} {a : Action R} {p : Pose R}
    (h : t.Replays w a p) : t.Replays w { a with pose := p } p := by
  cases h with
  | toggle hkind ho hreference hne htoggle => exact .toggle hkind ho hreference hne htoggle
  | put hkind ho hreference hne hanchor hcheck => exact .put hkind ho hreference hne hanchor hcheck
  | @drag o q hkind ho hreference hq =>
    exact .drag (q := q) hkind ho hreference (World.clampMoved?_clampMoved? hq)
  | rotate hkind ho => exact .rotate hkind ho

namespace Session

/-- What actions become as they are replayed in order, up to the first that is rejected. -/
def applied (s : Session R) : List (Action R) → List (Action R)
  | [] => []
  | a :: as =>
      match s.replay a with
      | .ok (s, b) => b :: s.applied as
      | .error _ => []

variable {s r q : Session R} {a b : Action R} {as : List (Action R)}

theorem applied_cons (h : s.replay a = .ok (r, b)) : s.applied (a :: as) = b :: r.applied as := by
  rw [applied, h]

/-- An action that has been replayed is replayed as it is. -/
theorem replay_again [LawfulScalar R] (h : s.replay a = .ok (r, b)) : s.replay b = .ok (r, b) := by
  obtain ⟨t, p, htable, hp, rfl, rfl⟩ := replay_cases h
  exact replay_eq_ok htable hp.again

/-- If all of a list has been replayed, each of it was accepted in its turn. -/
theorem accepts_of_replayAll (h : s.replayAll as = (q, none)) : s.Accepts as q := by
  unfold replayAll at h
  generalize 1 = n at h
  induction as generalizing n s with
  | nil =>
    obtain rfl : s = q := congrArg Prod.fst h
    exact .nil
  | cons a as ih =>
    rw [replayAll.go] at h
    split at h
    next r b ha => exact .cons ha (ih _ h)
    next => cases h

/-- What has been accepted is in the trajectory, with the poses applied. -/
theorem Accepts.trajectory (h : s.Accepts as q) : q.trajectory = s.trajectory ++ s.applied as := by
  induction h with
  | nil => exact (List.append_nil _).symm
  | cons ha _ ih =>
    obtain ⟨t, p, -, -, -, rfl⟩ := replay_cases ha
    rw [ih, applied_cons ha]
    exact List.append_assoc ..

/-- The poses apart, what is applied is what was asked for. -/
theorem Accepts.map_shape (h : s.Accepts as q) :
    (s.applied as).map Action.shape = as.map Action.shape := by
  induction h with
  | nil => rfl
  | cons ha _ ih =>
    obtain ⟨t, p, -, -, rfl, -⟩ := replay_cases ha
    rw [applied_cons ha, List.map_cons, List.map_cons, ih]
    rfl

variable [LawfulScalar R]

/-- What actions have become can be replayed instead, and stays as it is. -/
theorem Accepts.again (h : s.Accepts as q) :
    s.Accepts (s.applied as) q ∧ s.applied (s.applied as) = s.applied as := by
  induction h with
  | nil => exact ⟨.nil, rfl⟩
  | cons ha _ ih =>
    obtain ⟨haccepts, happlied⟩ := ih
    rw [applied_cons ha, applied_cons (replay_again ha), happlied]
    exact ⟨.cons (replay_again ha) haccepts, rfl⟩

omit [LawfulScalar R] in
/-- A bundle that is loaded forms a table, and nothing is recorded yet. -/
theorem table_of_load {bundle : SceneBundle R} (h : s.load bundle = (r, .ok .loaded)) :
    ∃ t, bundle.table = .ok t ∧ r.table = some t ∧ r.trajectory = [] := by
  have hperform : s.perform (.load bundle) = (r, .load .loaded) := by
    rw [perform, h]
    rfl
  obtain ⟨b, t, hbundle, ht, hprogress⟩ :=
    (makes_perform s (.load bundle)).change.exists_bundle (by rw [hperform]; rfl)
  obtain rfl := Option.some.inj hbundle
  rw [hperform] at hprogress
  exact ⟨t, ht, congrArg Progress.table hprogress, congrArg Progress.trajectory hprogress⟩

end Session

namespace CommandLine

open Session

theorem replayIn_eq_ok {s q : Session Float} {as : List (Action Float)} :
    replayIn s as = (q, .ok ()) ↔ s.Accepts as q := by
  constructor
  · intro h
    unfold replayIn at h
    split at h
    next r hr =>
      obtain ⟨rfl, -⟩ := Prod.mk.inj h
      exact accepts_of_replayAll hr
    next => cases h
  · intro h
    rw [replayIn, h.replayAll]

/-- Poses whose coordinates are numbers do not differ from themselves. -/
theorem bne_self {p : Pose Float} (h : p.All IsNumber) : (p != p) = false := by
  obtain ⟨⟨hx, hy, hz⟩, horientation⟩ := h
  change (!((p.position.x == p.position.x && (p.position.y == p.position.y &&
    p.position.z == p.position.z)) && p.orientation == p.orientation)) = false
  rw [Binary64.beq_self hx, Binary64.beq_self hy, Binary64.beq_self hz,
    Binary64.beq_self horientation]
  rfl

/-- There is nothing to warn of when measured objects are put where they have been put before. -/
theorem warnings_applied {s q : Session Float} {as : List (Action Float)} (h : s.Accepts as q)
    (hs : ∀ t ∈ s.table, t.Measured) (has : ∀ a ∈ as, a.pose.All IsNumber) :
    warnings s (s.applied as) = [] := by
  unfold warnings
  generalize 1 = n
  induction h generalizing n with
  | nil => rfl
  | @cons s r q a b as ha hrest ih =>
    have hagain := replay_again ha
    obtain ⟨t, p, htable, hp, rfl, rfl⟩ := replay_cases ha
    have hmeasured : p.All IsNumber :=
      hp.measured (hs t htable) (has a List.mem_cons_self)
    rw [applied_cons ha, warnings.go, hagain]
    dsimp only
    rw [bne_self hmeasured, ih, if_neg Bool.false_ne_true]
    · rfl
    · rintro _ ⟨⟩
      exact (hs t htable).carry hmeasured
    · exact fun a ha ↦ has a (List.mem_cons_of_mem _ ha)

/-- Load a bundle of finite doubles, in whatever configuration, and replay actions with whatever
poses of finite doubles.  If that goes through, the same actions are recorded up to their poses.
Replaying what is recorded on the loaded scene goes through as well, comes to the same session,
takes each action as it is, and there is nothing to warn of. -/
theorem replayIn_trajectory (config : Config Float) {bundle : SceneBundle Float}
    {fresh q : Session Float} {as : List (Action Float)}
    (hload : (Session.start config).load bundle = (fresh, .ok .loaded))
    (hreplay : replayIn fresh as = (q, .ok ()))
    (hbundle : ∀ o ∈ bundle.scene.objects, o.pose.All IsFinite ∧ o.size.All IsFinite)
    (has : ∀ a ∈ as, a.pose.All IsFinite) :
    (q.trajectory.length = as.length ∧ q.trajectory.map Action.shape = as.map Action.shape) ∧
      replayIn fresh q.trajectory = (q, .ok ()) ∧ fresh.applied q.trajectory = q.trajectory ∧
        warnings fresh q.trajectory = [] := by
  have haccepts := replayIn_eq_ok.1 hreplay
  obtain ⟨t, ht, htable, hrecorded⟩ := table_of_load hload
  obtain ⟨hagain, happlied⟩ := haccepts.again
  have hfresh : ∀ u ∈ fresh.table, u.Measured := by
    intro u hu o ho
    obtain rfl := Option.some.inj (htable.symm.trans hu)
    obtain ⟨-, rfl⟩ := SceneBundle.table_eq_ok.1 ht
    obtain ⟨hpose, hsize⟩ := hbundle o ho
    exact ⟨hpose.imp fun _ ↦ RangedScalar.isNumber_of_isFinite, hsize⟩
  have hnumbers : ∀ a ∈ as, a.pose.All IsNumber := fun a ha ↦
    (has a ha).imp fun _ ↦ RangedScalar.isNumber_of_isFinite
  rw [haccepts.trajectory, hrecorded, List.nil_append]
  have hshape := haccepts.map_shape
  refine ⟨⟨?_, hshape⟩, replayIn_eq_ok.2 hagain, happlied, ?_⟩
  · simpa using congrArg List.length hshape
  · exact warnings_applied haccepts hfresh hnumbers

/-- The cup is put in the bowl and the lid on it, though other places were recorded, and the cup is
dragged there from outside. -/
theorem replayIn_trajectory_corrected :
    let bundle : SceneBundle Float := ⟨⟨"kitchen", [Kitchen.bowl, Kitchen.lid, Kitchen.cup]⟩,
      "kitchen.png", .ofList [("bowl", "lid")], .empty⟩
    let as : List (Action Float) := [⟨.move, "cup", some "spoon", ⟨⟨8, 5, 1⟩, 0⟩⟩,
      ⟨.putIn, "cup", some "bowl", ⟨⟨7, 7, 7⟩, 7⟩⟩, ⟨.closeLid, "lid", some "bowl", ⟨⟨7, 7, 7⟩, 7⟩⟩]
    ∃ fresh q, (Session.start .standard).load bundle = (fresh, .ok .loaded) ∧
      replayIn fresh as = (q, .ok ()) ∧ warnings fresh as = [(1, "cup"), (2, "cup"), (3, "lid")] ∧
        replayIn fresh q.trajectory = (q, .ok ()) ∧ warnings fresh q.trajectory = [] := by
  intro bundle as
  let fresh := ((Session.start .standard).load bundle).1
  let q := (replayIn fresh as).1
  have hload : (Session.start .standard).load bundle = (fresh, .ok .loaded) := rfl
  have hreplay : replayIn fresh as = (q, .ok ()) := by
    refine Prod.ext rfl ?_
    decide +kernel
  obtain ⟨-, hagain, -, hquiet⟩ := replayIn_trajectory .standard hload hreplay
    (by decide +kernel) (by decide +kernel)
  exact ⟨fresh, q, hload, hreplay, by decide +kernel, hagain, hquiet⟩

end CommandLine

end Rearrangement
