import Rearrangement.Proofs.Session.Seating

/-!
# What replay lets through

A replayed drag keeps the object inside the world rectangle on each axis that changes.  A change by
less than `epsilon` counts as none, but the recorded value is taken all the same: it need not be the
one from before, and it may lie outside.  So a coordinate is what it was or between its bounds
unless the recorded one slips (`World.confines_clampMoved?`), and an object inside the rectangle
stays there through replayed drags and turns exactly as long as none of its coordinates slips
(`replay_confines`).

## Main statements

* `confines_ite_iff`: on one axis, what is let through.
* `World.confines_clampMoved?`: on both.
* `Inside.perform_iff`: an operation keeps an object inside exactly if no coordinate slips.
* `replay_confines`: what follows for accepted replays and for runs of them.
* `replay_slips`: an object on the edge that ends up outside.

The conditions are stated on the recorded place, which is known before the replay, and are exact: a
coordinate that slips does leave the rectangle.
-/

namespace Rearrangement

open Scalar

variable {R : Type} [Scalar R]

namespace Scalar

/-- The value is the one from before or lies between the bounds. -/
def Confines (lo hi before now : R) : Prop := now ≤ before ∧ before ≤ now ∨ lo ≤ now ∧ now ≤ hi

/-- The value is so near to the one from before that it counts as the same, but it is another one
and does not lie between the bounds. -/
def Slips (lo hi before now : R) : Prop :=
  abs (now - before) < epsilon ∧ ¬Confines lo hi before now

instance (lo hi before now : R) : Decidable (Confines lo hi before now) :=
  inferInstanceAs (Decidable (_ ∨ _))

instance (lo hi before now : R) : Decidable (Slips lo hi before now) :=
  inferInstanceAs (Decidable (_ ∧ _))

variable [LawfulScalar R] {lo hi before now inside : R}

/-- Taken as recorded if it counts as the same, and kept inside otherwise, a value is confined
unless the recorded one slips. -/
theorem confines_ite_iff (h : clamp? lo hi now = some inside) (hnow : IsNumber now) :
    Confines lo hi before (if abs (now - before) < epsilon then now else inside) ↔
      ¬Slips lo hi before now := by
  rw [Slips, not_and_not_right]
  split
  next hnear => exact ⟨fun hconfines _ ↦ hconfines, fun himp ↦ himp hnear⟩
  next hfar =>
    refine iff_of_true (.inr ?_) fun hnear ↦ absurd hnear hfar
    exact between_of_clamp? h (isNumber_of_clamp? hnow h)

theorem between_iff_confines (h : lo ≤ before ∧ before ≤ hi) :
    lo ≤ now ∧ now ≤ hi ↔ Confines lo hi before now := by
  refine ⟨.inr, ?_⟩
  rintro (⟨hle, hge⟩ | hinside)
  · exact ⟨LawfulScalar.le_trans h.1 hge, LawfulScalar.le_trans hle h.2⟩
  · exact hinside

end Scalar

namespace World

variable {w : World R} {p q r : Point R}

/-- Each coordinate of `q` is that of `p` or lies between its bounds. -/
def Confines (w : World R) (p q : Point R) : Prop :=
  Scalar.Confines w.xMin w.xMax p.x q.x ∧ Scalar.Confines w.yMin w.yMax p.y q.y

/-- From `p` to `q`, a coordinate slips. -/
def Slips (w : World R) (p q : Point R) : Prop :=
  Scalar.Slips w.xMin w.xMax p.x q.x ∨ Scalar.Slips w.yMin w.yMax p.y q.y

instance (w : World R) (p q : Point R) : Decidable (w.Confines p q) :=
  inferInstanceAs (Decidable (_ ∧ _))

instance (w : World R) (p q : Point R) : Decidable (w.Slips p q) :=
  inferInstanceAs (Decidable (_ ∨ _))

theorem contains_eq_true : w.contains p = true ↔
    (w.xMin ≤ p.x ∧ p.x ≤ w.xMax) ∧ w.yMin ≤ p.y ∧ p.y ≤ w.yMax := by
  simp [contains, and_assoc]

variable [LawfulScalar R]

/-- Where a replayed drag leads is confined unless the recorded place slips. -/
theorem confines_clampMoved? (h : w.clampMoved? p q = some r) (hx : IsNumber q.x)
    (hy : IsNumber q.y) : w.Confines p r ↔ ¬w.Slips p q := by
  obtain ⟨inside, hinside, rfl⟩ := Option.map_eq_some_iff.1 h
  obtain ⟨hinx, hiny⟩ := World.clamp?_eq_some.1 hinside
  rw [Slips, not_or, ← confines_ite_iff hinx hx, ← confines_ite_iff hiny hy]
  rfl

/-- From a point of the world, to be confined is to stay in it. -/
theorem contains_iff_confines (h : w.contains p = true) :
    w.contains q = true ↔ w.Confines p q := by
  obtain ⟨hx, hy⟩ := contains_eq_true.1 h
  exact contains_eq_true.trans (and_congr (between_iff_confines hx) (between_iff_confines hy))

end World

/-- The action that the operation replays. -/
def Operation.replay? : Operation R → Option (Action R)
  | replay a => some a
  | _ => none

omit [Scalar R] in
theorem Operation.replay?_eq_some {op : Operation R} {a : Action R} :
    op.replay? = some a ↔ op = replay a := by
  cases op <;> simp [replay?]

/-- The action drags its object or turns it, to coordinates that are numbers. -/
def Action.Guides (a : Action R) : Prop :=
  (a.kind.isDrag = true ∨ a.kind = .rotate) ∧ IsNumber a.pose.position.x ∧
    IsNumber a.pose.position.y

def Operation.Guides (op : Operation R) : Prop := ∃ a ∈ op.replay?, a.Guides

instance (a : Action R) : Decidable a.Guides := inferInstanceAs (Decidable (_ ∧ _ ∧ _))

instance (op : Operation R) : Decidable op.Guides :=
  inferInstanceAs (Decidable (∃ a ∈ op.replay?, _))

namespace Session

variable {s r : Session R} {a b : Action R} {o : SceneObject R} {x : ObjectId}

/-! ## One replay -/

/-- A replayed action moves its object to where it has been carried out, and no other. -/
theorem object?_replay (h : s.replay a = .ok (r, b)) (x : ObjectId) : r.object? x =
    if x = a.object then (s.object? x).map (·.withPose b.pose) else s.object? x := by
  obtain ⟨t, p, htable, -, rfl, rfl⟩ := replay_cases h
  rw [object?, object?, htable]
  exact Table.get?_carry

/-- The place that replay finds is found for the object as it was before. -/
theorem exists_replays (h : s.replay a = .ok (r, b)) (ho : s.object? a.object = some o) :
    ∃ t : Table R, t.Replays s.config.world a b.pose ∧ t.scene.get? a.object = some o := by
  obtain ⟨t, p, htable, hp, rfl, -⟩ := replay_cases h
  refine ⟨t, hp, ?_⟩
  rw [object?, htable] at ho
  exact ho

/-- A replayed drag leads to the recorded place, kept inside on the axes that change. -/
theorem replay_drag (h : s.replay a = .ok (r, b)) (hdrag : a.kind.isDrag)
    (ho : s.object? a.object = some o) :
    s.config.world.clampMoved? o.position.flat a.pose.position.flat =
      some b.pose.position.flat := by
  obtain ⟨t, hp, ho⟩ := exists_replays h ho
  generalize b.pose = p at hp
  cases hp with
  | toggle hkind =>
    exact absurd hdrag (Bool.eq_false_iff.1 (ActionKind.isDrag_of_isLidToggle hkind))
  | put hkind => rcases hkind with h | h <;> rw [h] at hdrag <;> cases hdrag
  | drag _ ho' _ hq =>
    obtain rfl := Option.some.inj (ho'.symm.trans ho)
    exact hq
  | rotate hkind =>
    rw [hkind] at hdrag
    cases hdrag

/-- A replayed turn leaves the object where it is. -/
theorem replay_rotate (h : s.replay a = .ok (r, b)) (hrotate : a.kind = .rotate)
    (ho : s.object? a.object = some o) : b.pose.position = o.position := by
  obtain ⟨t, hp, ho⟩ := exists_replays h ho
  generalize b.pose = p at hp
  cases hp with
  | toggle hkind | drag hkind =>
    rw [hrotate] at hkind
    cases hkind
  | put hkind => rcases hkind with h | h <;> cases hrotate.symm.trans h
  | rotate _ ho' => rw [Option.some.inj (ho'.symm.trans ho)]

/-! ## Runs -/

/-- The object, if there is one, lies inside the world rectangle. -/
def Inside (x : ObjectId) (s : Session R) : Prop :=
  ∀ o ∈ s.object? x, s.config.world.contains o.position.flat = true

/-- The action is carried out and drags the object to a place at which a coordinate slips. -/
def Slips (x : ObjectId) (s : Session R) (a : Action R) : Prop :=
  a.object = x ∧ a.kind.isDrag = true ∧ (s.replay a).isOk = true ∧
    ∃ o ∈ s.object? x, s.config.world.Slips o.position.flat a.pose.position.flat

/-- If the operation replays an action, no coordinate of the object slips. -/
def KeepsHold (x : ObjectId) (s : Session R) (op : Operation R) : Prop :=
  ∀ a ∈ op.replay?, ¬s.Slips x a

instance (x : ObjectId) (s : Session R) : Decidable (s.Inside x) :=
  inferInstanceAs (Decidable (∀ o ∈ s.object? x, _))

instance (x : ObjectId) (s : Session R) (a : Action R) : Decidable (s.Slips x a) :=
  inferInstanceAs (Decidable (_ ∧ _ ∧ _ ∧ _))

instance (x : ObjectId) (s : Session R) (op : Operation R) : Decidable (s.KeepsHold x op) :=
  inferInstanceAs (Decidable (∀ a ∈ op.replay?, _))

variable [LawfulScalar R]

/-- A replayed drag is confined unless an axis slips. -/
theorem confines_of_replay (h : s.replay a = .ok (r, b)) (hdrag : a.kind.isDrag)
    (ho : s.object? a.object = some o) (hx : IsNumber a.pose.position.x)
    (hy : IsNumber a.pose.position.y) :
    s.config.world.Confines o.position.flat b.pose.position.flat ↔
      ¬s.config.world.Slips o.position.flat a.pose.position.flat :=
  World.confines_clampMoved? (replay_drag h hdrag ho) hx hy

/-- An action that drags or turns an object keeps it inside unless a coordinate slips. -/
theorem Inside.replay_iff (h : s.replay a = .ok (r, b)) (ha : a.Guides)
    (hs : s.Inside a.object) : r.Inside a.object ↔ ¬s.Slips a.object a := by
  obtain ⟨hkind, hx, hy⟩ := ha
  have hconfig : r.config = s.config := (makes_of_replay h).config
  rw [Inside, object?_replay h, if_pos rfl, hconfig]
  cases ho : s.object? a.object with
  | none =>
    refine iff_of_true nofun ?_
    rintro ⟨-, -, -, o, ho', -⟩
    cases ho.symm.trans ho'
  | some o =>
    have hinside := hs o ho
    simp only [Option.map_some, Option.mem_some_iff, forall_eq']
    rcases hkind with hdrag | hrotate
    · have hslips : s.Slips a.object a ↔
          s.config.world.Slips o.position.flat a.pose.position.flat := by
        constructor
        · rintro ⟨-, -, -, o', ho', hslips⟩
          obtain rfl := Option.some.inj (ho.symm.trans ho')
          exact hslips
        · exact fun hslips ↦ ⟨rfl, hdrag, by rw [h]; rfl, o, ho, hslips⟩
      rw [hslips, ← confines_of_replay h hdrag ho hx hy]
      exact World.contains_iff_confines hinside
    · refine iff_of_true ?_ fun ⟨_, hdrag, _⟩ ↦ ?_
      · change s.config.world.contains b.pose.position.flat = true
        rw [replay_rotate h hrotate ho]
        exact hinside
      · rw [hrotate] at hdrag
        cases hdrag

/-- The step: an object stays inside as long as what holds it does not slip. -/
theorem Inside.perform_iff (hs : s.Inside x) {op : Operation R} (hop : op.Guides) :
    (s.perform op).1.Inside x ↔ s.KeepsHold x op := by
  obtain ⟨a, hreplay, ha⟩ := hop
  obtain rfl : op = .replay a := Operation.replay?_eq_some.1 hreplay
  simp only [KeepsHold, Operation.replay?, Option.mem_some_iff, forall_eq']
  cases h : s.replay a with
  | error e =>
    have hperform : (s.perform (.replay a)).1 = s := by
      rw [perform, h]
      rfl
    rw [hperform]
    refine iff_of_true hs ?_
    rintro ⟨-, -, hok, -⟩
    rw [h] at hok
    cases hok
  | ok y =>
    obtain ⟨r, b⟩ := y
    have hperform : (s.perform (.replay a)).1 = r := by
      rw [perform, h]
      rfl
    rw [hperform]
    by_cases hobject : x = a.object
    · subst hobject
      exact hs.replay_iff h ha
    · refine iff_of_true ?_ fun hslips ↦ hobject hslips.1.symm
      rw [Inside, object?_replay h, if_neg hobject, (makes_of_replay h).config]
      exact hs

/-- An accepted replay of a drag to coordinates that are numbers puts the object where the applied
pose says.  There each coordinate is what it was or lies between its bounds, exactly if the recorded
one does not slip.  Through a run of replayed drags and turns, an object that is inside the world
rectangle stays there exactly if none of its coordinates slips. -/
theorem replay_confines :
    (∀ (s r : Session R) (a b : Action R) (o : SceneObject R), s.replay a = .ok (r, b) →
      a.kind.isDrag → s.object? a.object = some o → IsNumber a.pose.position.x →
        IsNumber a.pose.position.y → r.object? a.object = some (o.withPose b.pose) ∧
          (s.config.world.Confines o.position.flat b.pose.position.flat ↔
            ¬s.config.world.Slips o.position.flat a.pose.position.flat)) ∧
      ∀ (s : Session R) (x : ObjectId) (ops : List (Operation R)), s.Inside x →
        (∀ op ∈ ops, op.Guides) →
          ((∀ ops', ops' <+: ops → (s.run ops').Inside x) ↔ s.Along (KeepsHold x) ops) := by
  refine ⟨fun s r a b o h hdrag ho hx hy ↦ ⟨?_, confines_of_replay h hdrag ho hx hy⟩,
    fun s x ops hs hops ↦ ?_⟩
  · rw [object?_replay h, if_pos rfl, ho]
    rfl
  · exact prefixes_iff_along (fun _ h ↦ h) (fun _ _ h hop ↦ h.perform_iff hop)
      (fun _ _ _ _ hnow ↦ hnow) hs (along_of_forall hops)

/-- The pea lies on the edge of the rectangle.  It is moved along it, turned, and moved outside,
from where it is brought back. -/
theorem replay_confines_pea :
    let s := (start Kitchen.config).run [Kitchen.loadPea]
    let ops : List (Operation Float) := [.replay ⟨.move, "pea", none, ⟨⟨0, 1, 1⟩, 0⟩⟩,
      .replay ⟨.rotate, "pea", none, ⟨⟨7, 7, 7⟩, 90⟩⟩,
      .replay ⟨.move, "pea", none, ⟨⟨-3, 5, 1⟩, 0⟩⟩]
    (s.Inside "pea" ∧ ∀ op ∈ ops, op.Guides) ∧
      ∀ ops', ops' <+: ops → (s.run ops').Inside "pea" := by
  intro s ops
  have hinside : s.Inside "pea" := by decide +kernel
  have hguides : ∀ op ∈ ops, op.Guides := by decide +kernel
  have hholds : s.Along (KeepsHold "pea") ops := by decide +kernel
  exact ⟨⟨hinside, hguides⟩, (replay_confines.2 s "pea" ops hinside hguides).2 hholds⟩

/-- The pea lies on the edge of the rectangle, and is moved a hair beyond it. -/
theorem replay_slips :
    let s := (start Kitchen.config).run [Kitchen.loadPea]
    let a : Action Float := ⟨.move, "pea", none, ⟨⟨-1e-17, 0, 1⟩, 0⟩⟩
    (s.config.world.Ordered ∧ s.Inside "pea" ∧ (Operation.replay a).Guides) ∧
      ∃ r b, s.replay a = .ok (r, b) ∧
        ¬s.config.world.Confines Kitchen.pea.position.flat b.pose.position.flat ∧
          ¬r.Inside "pea" := by
  intro s a
  have hworld : s.config.world.Ordered := by decide +kernel
  have hinside : s.Inside "pea" := by decide +kernel
  have hguides : a.Guides := by decide +kernel
  have hslips : s.Slips "pea" a := by decide +kernel
  refine ⟨⟨hworld, hinside, a, rfl, hguides⟩, ?_⟩
  obtain ⟨-, -, hok, o, ho, hslipsFrom⟩ := id hslips
  obtain rfl : Kitchen.pea = o := Option.some.inj ho
  cases h : s.replay a with
  | error e =>
    rw [h] at hok
    cases hok
  | ok y =>
    obtain ⟨r, b⟩ := y
    refine ⟨r, b, rfl, fun hconfines ↦ ?_, fun hnow ↦ (hinside.replay_iff h hguides).1 hnow hslips⟩
    exact (confines_of_replay h rfl ho hguides.2.1 hguides.2.2).1 hconfines hslipsFrom

end Session

end Rearrangement
