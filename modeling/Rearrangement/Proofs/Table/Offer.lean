import Rearrangement.Proofs.Relations.Update
import Rearrangement.Proofs.Scalar.Lawful
import Rearrangement.Proofs.Scene.Pose
import Rearrangement.Session.Handlers

/-!
# The actions that a table offers

`Table.carry` is what an action does to a table.  `Table.Replays` says where replay puts the object
of an action, one rule for each way to find the place (`replayPose_eq_ok`).  `Table.Offers` is what
the annotator can be shown on a table: an action together with the pose of its preview.

What is offered can be replayed (`Offers.exists_replays`), and replay finds the very pose that was
shown if the object starts from a finite place (`Offers.replays`).  Two things are checked by replay
alone: that a lid is not its own container, and that the bounds of the world rectangle are in order
when an object was put near another.

## Main statements

* `replayPose_eq_ok`: replay, as rules.
* `lidToggle_eq_ok`: when a lid can be opened or closed.
* `Offers.exists_replays`, `Offers.replays`: what is offered can be replayed, and leads to the pose
  that was shown.
* `carry_carry`: a preview takes the place of the one before.
-/

namespace Rearrangement

open Scalar

/-! ## Results in sequence -/

/-- A computation succeeds if its first part does, and then the rest on what that gives. -/
theorem bind_eq_ok {ε α β : Type} {x : Except ε α} {f : α → Except ε β} {b : β} :
    x >>= f = .ok b ↔ ∃ a, x = .ok a ∧ f a = .ok b := by
  cases x <;> simp [bind, Except.bind]

/-- What comes after a refusal is reached if there is no reason for it. -/
theorem unless_eq_ok {ε β : Type} {reason : Prop} [Decidable reason] {e : ε}
    {f : Unit → Except ε β} {b : β} :
    (if reason then throw e >>= f else f ()) = .ok b ↔ ¬reason ∧ f () = .ok b := by
  by_cases h : reason
  · rw [if_pos h]
    exact iff_of_false nofun fun hok ↦ hok.1 h
  · rw [if_neg h, and_iff_right h]

theorem mapError_eq_ok {ε ε' α : Type} {f : ε → ε'} {x : Except ε α} {a : α} :
    x.mapError f = .ok a ↔ x = .ok a := by
  cases x with
  | error => exact ⟨nofun, nofun⟩
  | ok b =>
    constructor
    all_goals
      intro h
      obtain rfl : b = a := Except.ok.inj h
      rfl

theorem ActionKind.isDrag_of_isLidToggle {kind : ActionKind} (h : kind.isLidToggle) :
    kind.isDrag = false := by
  cases kind <;> simp_all [isLidToggle, isDrag]

/-- No container is its own lid. -/
def LidMap.Irreflexive (m : LidMap) : Prop := ∀ c, m.lidFor? c ≠ some c

theorem LidMap.irreflexive_of_forall {m : LidMap} (h : ∀ e ∈ m.entries, e.1 ≠ e.2) :
    m.Irreflexive := by
  intro c hc
  obtain ⟨e, he, hlid⟩ := Option.map_eq_some_iff.1 hc
  have hcontainer : e.1 = c := by simpa using List.find?_some he
  exact h e (List.mem_of_find?_eq_some he) (hcontainer.trans hlid.symm)

variable {R : Type}

namespace Table

/-! ## Carrying out actions -/

/-- The table once an action has been carried out on it. -/
def carry (t : Table R) (a : Action R) : Table R := t.place a.kind a.object a.pose a.reference

/-- The table under a preview, if there is one. -/
def preview (t : Table R) (a : Option (Action R)) : Table R := a.elim t t.carry

variable {t : Table R} {kind : ActionKind} {x id : ObjectId} {p q : Pose R}
  {context : Option ObjectId}

@[simp] theorem place_place :
    (t.place kind id p context).place kind id q context = t.place kind id q context := by
  simp only [place, Scene.setPose_setPose, RelationSet.update_same]

/-- The object is where it was put. -/
theorem get?_place {o : SceneObject R} (ho : t.scene.get? id = some o) :
    (t.place kind id p context).scene.get? id = some (o.withPose p) := by
  change (t.scene.setPose id p).get? id = _
  rw [Scene.get?_setPose_self, ho]
  rfl

/-- A preview takes the place of the one before. -/
theorem carry_carry {a b : Action R} (hkind : a.kind = b.kind) (hobject : a.object = b.object)
    (hreference : a.reference = b.reference) : (t.carry a).carry b = t.carry b := by
  rw [carry, carry, hkind, hobject, hreference, place_place]
  rfl

theorem require_eq_ok {o : SceneObject R} : t.require x = .ok o ↔ t.scene.get? x = some o := by
  unfold require
  split <;> simp_all

variable [Scalar R]

/-- When a lid can be opened or closed, and to which pose. -/
theorem lidToggle_eq_ok {lid container : ObjectId} {pose : Pose R} :
    t.lidToggle kind container = .ok (lid, pose) ↔
      ∃ c l, t.scene.get? container = some c ∧ t.lids.lidFor? container = some lid ∧
        t.scene.get? lid = some l ∧ (kind = .openLid ↔ container ∈ t.relations.closed) ∧
        pose = if kind = .openLid then l.opening c else l.closing c := by
  unfold lidToggle
  simp only [bind_eq_ok, require_eq_ok]
  cases hl : t.lids.lidFor? container with
  | none => simp [throw, throwThe, MonadExceptOf.throw]
  | some lid' =>
    simp only [bind_eq_ok, require_eq_ok, RelationSet.isClosed, decide_eq_true_eq]
    by_cases hkind : kind = .openLid <;> by_cases hclosed : container ∈ t.relations.closed <;>
      simp [hkind, hclosed, pure, Except.pure, throw, throwThe, MonadExceptOf.throw]
    all_goals grind

/-! ## What replay finds -/

/-- Replay of the action puts its object there. -/
inductive Replays (t : Table R) (w : World R) (a : Action R) : Pose R → Prop
  | toggle {o : SceneObject R} {container : ObjectId} {p : Pose R} (hkind : a.kind.isLidToggle)
      (ho : t.scene.get? a.object = some o) (hreference : a.reference = some container)
      (hne : container ≠ a.object) (htoggle : t.lidToggle a.kind container = .ok (a.object, p)) :
      Replays t w a p
  | put {o anchor : SceneObject R} {reference : ObjectId}
      (hkind : a.kind = .putIn ∨ a.kind = .putOn) (ho : t.scene.get? a.object = some o)
      (hreference : a.reference = some reference) (hne : reference ≠ a.object)
      (hanchor : t.scene.get? reference = some anchor)
      (hcheck : t.checkReference a.kind anchor = .ok ()) :
      Replays t w a (if a.kind = .putIn then o.puttingIn anchor else o.puttingOn anchor)
  | drag {o : SceneObject R} {q : Point R} (hkind : a.kind.isDrag)
      (ho : t.scene.get? a.object = some o)
      (hreference : a.kind = .putNear → ∃ reference anchor, a.reference = some reference ∧
        reference ≠ a.object ∧ t.scene.get? reference = some anchor)
      (hq : w.clampMoved? o.position.flat a.pose.position.flat = some q) :
      Replays t w a ⟨⟨q.x, q.y, a.pose.position.z⟩, a.pose.orientation⟩
  | rotate {o : SceneObject R} (hkind : a.kind = .rotate) (ho : t.scene.get? a.object = some o) :
      Replays t w a ⟨o.position, a.pose.orientation⟩

omit [Scalar R] in
theorem replayReference_eq_ok {a : Action R} {o : Option (SceneObject R)} :
    t.replayReference a = .ok o ↔
      if a.kind.needsReference || a.kind.isLidToggle then
        ∃ reference anchor, a.reference = some reference ∧ reference ≠ a.object ∧
          t.scene.get? reference = some anchor ∧ o = some anchor
      else o = none := by
  unfold replayReference
  split
  · cases a.reference with
    | none => simp [throw, throwThe, MonadExceptOf.throw]
    | some reference =>
      by_cases hself : reference = a.object
      · simp [hself, throw, throwThe, MonadExceptOf.throw, bind, Except.bind]
      · simp only [if_neg hself, bind_eq_ok, require_eq_ok, pure, Except.pure, Except.ok.injEq]
        constructor
        · rintro ⟨anchor, hanchor, rfl⟩
          exact ⟨reference, anchor, rfl, hself, hanchor, rfl⟩
        · rintro ⟨_, anchor, hreference, -, hanchor, rfl⟩
          obtain rfl := Option.some.inj hreference
          exact ⟨anchor, hanchor, rfl⟩
  · simp [pure, Except.pure, eq_comm]

omit [Scalar R] in
/-- The lid that was toggled must be the object of the action. -/
theorem own_eq_ok {x : Except PreconditionViolation (ObjectId × Pose R)} {e : SessionError} :
    (do let (lid, pose) ← x.mapError SessionError.precondition
        if lid ≠ id then throw e
        return pose) = .ok p ↔ x = .ok (id, p) := by
  rw [bind_eq_ok]
  constructor
  · rintro ⟨⟨lid, pose⟩, hx, h⟩
    obtain ⟨hlid, hpose⟩ := unless_eq_ok.1 h
    obtain rfl : lid = id := Decidable.not_not.1 hlid
    obtain rfl := Except.ok.inj hpose
    exact mapError_eq_ok.1 hx
  · rintro rfl
    exact ⟨(id, p), rfl, by simp [pure, Except.pure]⟩

/-- What is applied of a recorded action is what the rules of replay say. -/
theorem replayPose_eq_ok {w : World R} {a : Action R} :
    t.replayPose w a = .ok p ↔ t.Replays w a p := by
  obtain ⟨kind, object, ref, pose⟩ := a
  unfold replayPose
  simp only [bind_eq_ok, mapError_eq_ok, require_eq_ok, replayReference_eq_ok]
  constructor
  · rintro ⟨o, ho, anchor?, hreference, h⟩
    cases kind
    case openLid | closeLid =>
      obtain ⟨container, anchor, hcontainer, hne, hanchor, rfl⟩ := hreference
      -- replay asks for the lid of the object that it has found, a rule for that of the container
      have hid : anchor.id = container := Scene.id_of_get? hanchor
      refine .toggle rfl ho hcontainer hne ?_
      rw [← hid]
      exact own_eq_ok.1 h
    case putIn | putOn =>
      obtain ⟨reference, anchor, hreference, hne, hanchor, rfl⟩ := hreference
      obtain ⟨⟨⟩, hcheck, h⟩ := bind_eq_ok.1 h
      obtain rfl := Except.ok.inj h
      exact .put (by simp) ho hreference hne hanchor (mapError_eq_ok.1 hcheck)
    case putNear =>
      obtain ⟨reference, anchor, hreference, hne, hanchor, rfl⟩ := hreference
      dsimp only at h
      split at h
      next q hq =>
        obtain rfl := Except.ok.inj h
        exact .drag rfl ho (fun _ ↦ ⟨reference, anchor, hreference, hne, hanchor⟩) hq
      next => cases h
    case move =>
      obtain rfl : anchor? = none := hreference
      dsimp only at h
      split at h
      next q hq =>
        obtain rfl := Except.ok.inj h
        exact .drag rfl ho nofun hq
      next => cases h
    case rotate =>
      obtain rfl : anchor? = none := hreference
      obtain rfl := Except.ok.inj h
      exact .rotate rfl ho
  · intro h
    cases h with
    | @toggle o container _ hkind ho hreference hne htoggle =>
      obtain ⟨c, l, hc, -⟩ := lidToggle_eq_ok.1 htoggle
      have hid : c.id = container := Scene.id_of_get? hc
      refine ⟨o, ho, some c, ?_, ?_⟩
      · rw [if_pos (by simp_all)]
        exact ⟨container, c, hreference, hne, hc, rfl⟩
      · rw [← hid] at htoggle
        cases kind <;> simp only [ActionKind.isLidToggle, reduceCtorEq] at hkind
        all_goals exact own_eq_ok.2 htoggle
    | @put o anchor reference hkind ho hreference hne hanchor hcheck =>
      refine ⟨o, ho, some anchor, ?_, ?_⟩
      · rw [if_pos (by rcases hkind with rfl | rfl <;> rfl)]
        exact ⟨reference, anchor, hreference, hne, hanchor, rfl⟩
      · rcases hkind with rfl | rfl
        all_goals exact bind_eq_ok.2 ⟨(), mapError_eq_ok.2 hcheck, rfl⟩
    | @drag o q hkind ho hreference hq =>
      cases kind <;> simp only [ActionKind.isDrag, reduceCtorEq] at hkind
      case putNear =>
        obtain ⟨reference, anchor, hreference, hne, hanchor⟩ := hreference rfl
        refine ⟨o, ho, some anchor, ⟨reference, anchor, hreference, hne, hanchor, rfl⟩, ?_⟩
        simp only [hq]
      case move =>
        refine ⟨o, ho, none, rfl, ?_⟩
        simp only [hq]
    | @rotate o hkind ho =>
      obtain rfl : kind = .rotate := hkind
      exact ⟨o, ho, none, rfl, rfl⟩

/-! ## What the annotator finds -/

/-- The annotator can be shown the action on a table, with its pose as the preview: a lid is toggled
for its container, an object is put where it belongs, dragged or turned.  Where to it may be dragged
is said by `Within`. -/
inductive Offers (t : Table R) (w : World R) : Action R → Prop
  | toggle {kind : ActionKind} {container lid : ObjectId} {p : Pose R} (hkind : kind.isLidToggle)
      (htoggle : t.lidToggle kind container = .ok (lid, p)) :
      Offers t w ⟨kind, lid, some container, p⟩
  | put {kind : ActionKind} {o anchor : SceneObject R} {id reference : ObjectId}
      (hkind : kind = .putIn ∨ kind = .putOn) (ho : t.scene.get? id = some o)
      (hne : reference ≠ id) (hanchor : t.scene.get? reference = some anchor)
      (hcheck : t.checkReference kind anchor = .ok ()) :
      Offers t w ⟨kind, id, some reference,
        if kind = .putIn then o.puttingIn anchor else o.puttingOn anchor⟩
  | drag {kind : ActionKind} {o : SceneObject R} {id : ObjectId} {reference : Option ObjectId}
      {p : Pose R} (hkind : kind.isDrag) (ho : t.scene.get? id = some o)
      (hreference : kind = .putNear → ∃ x anchor, reference = some x ∧ x ≠ id ∧
        t.scene.get? x = some anchor)
      (hordered : kind ≠ .putNear → w.Ordered) : Offers t w ⟨kind, id, reference, p⟩
  | rotate {o : SceneObject R} {id : ObjectId} {reference : Option ObjectId} {θ : R}
      (ho : t.scene.get? id = some o) : Offers t w ⟨.rotate, id, reference, ⟨o.position, θ⟩⟩

variable {w : World R} {a : Action R}

/-- What is offered is about an object of the table. -/
theorem Offers.exists_object (h : t.Offers w a) : ∃ o, t.scene.get? a.object = some o := by
  cases h with
  | toggle _ htoggle =>
    obtain ⟨_, l, _, _, hl, -⟩ := lidToggle_eq_ok.1 htoggle
    exact ⟨l, hl⟩
  | put _ ho => exact ⟨_, ho⟩
  | drag _ ho => exact ⟨_, ho⟩
  | rotate ho => exact ⟨_, ho⟩

/-- No action is offered to open or close a lid with itself, unless the lid is its own container. -/
theorem Offers.reference_ne (h : t.Offers w a) (hlids : t.lids.Irreflexive)
    (hkind : a.kind.isLidToggle) : a.reference ≠ some a.object := by
  cases h with
  | @toggle _ container lid _ _ htoggle =>
    obtain ⟨_, _, _, hlid, -⟩ := lidToggle_eq_ok.1 htoggle
    intro hself
    obtain rfl : container = lid := Option.some.inj hself
    exact hlids container hlid
  | put hput => rcases hput with rfl | rfl <;> cases hkind
  | drag hdrag => exact absurd hdrag (Bool.eq_false_iff.1 (ActionKind.isDrag_of_isLidToggle hkind))
  | rotate => cases hkind

/-- What is offered can be replayed. -/
theorem Offers.exists_replays (h : t.Offers w a) (hw : a.kind = .putNear → w.Ordered)
    (hown : a.kind.isLidToggle → a.reference ≠ some a.object) : ∃ p, t.Replays w a p := by
  obtain ⟨o, hobject⟩ := h.exists_object
  cases h with
  | @toggle kind container lid p hkind htoggle =>
    exact ⟨p, .toggle hkind hobject rfl (fun hself ↦ hown hkind (congrArg some hself)) htoggle⟩
  | put hkind ho hne hanchor hcheck => exact ⟨_, .put hkind ho rfl hne hanchor hcheck⟩
  | @drag kind o _ _ p hkind ho hreference hordered =>
    have hw : w.Ordered := by
      by_cases hnear : kind = .putNear
      · exact hw hnear
      · exact hordered hnear
    obtain ⟨inside, hinside⟩ := hw.clamp?_isSome p.position.flat
    exact ⟨_, .drag hkind ho hreference (by rw [World.clampMoved?, hinside]; rfl)⟩
  | rotate ho => exact ⟨_, .rotate rfl ho⟩

/-- If an object is dragged by the action, a drag may lead there. -/
def Within (t : Table R) (w : World R) (a : Action R) : Prop :=
  a.kind.isDrag → ∀ o, t.scene.get? a.object = some o →
    w.Reaches o.position.flat a.pose.position.flat

/-- Replay finds the pose that was shown, of an object that starts from a finite place. -/
theorem Offers.replays [LawfulScalar R] (h : t.Offers w a) (hwithin : t.Within w a) (hw : w.Ordered)
    (hown : a.kind.isLidToggle → a.reference ≠ some a.object)
    (hfinite : ∀ o, t.scene.get? a.object = some o →
      IsFinite o.position.x ∧ IsFinite o.position.y) : t.Replays w a a.pose := by
  obtain ⟨o, hobject⟩ := h.exists_object
  cases h with
  | toggle hkind htoggle =>
    exact .toggle hkind hobject rfl (fun hself ↦ hown hkind (congrArg some hself)) htoggle
  | put hkind ho hne hanchor hcheck => exact .put hkind ho rfl hne hanchor hcheck
  | @drag _ o _ _ p hkind ho hreference =>
    obtain ⟨hx, hy⟩ := hfinite o ho
    have hq : w.clampMoved? o.position.flat p.position.flat = some p.position.flat :=
      (hwithin hkind o ho).clampMoved? hw hx hy
    exact .drag (q := p.position.flat) hkind ho hreference hq
  | rotate ho => exact .rotate rfl ho

end Table

end Rearrangement
