import Rearrangement.Proofs.Binary64.Dot
import Rearrangement.Proofs.Binary64.Range
import Rearrangement.Proofs.Cells.Tracking

/-!
# Drags

While the pointer holds an object it is moved about and the canvas may change its size.  The grip
stays the same through all that, and the object is each time put where the grip leads it
(`Holds.perform_pointerMove`).  What is true of the object when it is taken, and of each place to
which the grip leads it, is true throughout the drag (`Holds.run`).

A free drag leads into the world rectangle.  A drag on one axis leaves the other coordinate exactly
where it was, wherever that is, and leads only the moved one inside; an object that has hardly been
moved stays where it was (`Grip.Pinned`).  So throughout a drag on one axis each coordinate is what
it was at the start or lies between its bounds (`drags_bounded`), however often the axis changes on
the way and the canvas its size.

`Holds.run` knows nothing of bounds: where drags end is one property of places among others.

## Main statements

* `Holds.run`: an invariant rule for drags, from one pull to any number of them.
* `pinned_of_alongAxis?`: where a drag on one axis leads.
* `drags_bounded`: the bounds of free drags and of drags on one axis, with moves and resizes in any
  order.
* `drags_bounded_pea`: on an object that starts outside of the rectangle.
-/

namespace Rearrangement

/-! ## While an object is held -/

open Scalar

variable {R : Type}

/-- Where the pointer leads the centre of an object, bounds apart. -/
def Grip.ahead [Scalar R] (g : Grip R) (pixel : Point R) (v : Viewport R) : Point R :=
  ⟨g.origin.x + (g.displacement pixel v).x, g.origin.y + (g.displacement pixel v).y⟩

/-- The operations in the course of a drag. -/
def Operation.isPull : Operation R → Bool
  | pointerMove _ | resize _ _ => true
  | _ => false

namespace Session

variable {s : Session R} {kind : ActionKind} {target : ObjectId} {reference : Option ObjectId}
  {g : Grip R} {o : SceneObject R} {step : Step R} {t : Table R}

/-- The pointer holds the object by the grip. -/
structure Holds (s : Session R) (kind : ActionKind) (target : ObjectId)
    (reference : Option ObjectId) (g : Grip R) (o : SceneObject R) : Prop where
  phase : ∃ step, s.phase = .manipulate kind target reference (some g) step
  object : s.object? target = some o

theorem object?_eq_some :
    s.object? target = some o ↔ ∃ t, s.table = some t ∧ t.scene.get? target = some o :=
  Option.bind_eq_some_iff

theorem Holds.object?_cells (h : s.Holds kind target reference g o) :
    s.cells.object? target = some o := by
  obtain ⟨t, ht, ho⟩ := object?_eq_some.1 h.object
  exact Session.object?_cells ht ho

variable [Scalar R] {down pixel : Point R}

/-- Pressed on the chosen object, the pointer takes hold of it. -/
theorem holds_pointerDown (hphase : s.phase = .manipulate kind target reference none step)
    (ho : s.object? target = some o) (hkind : kind.isDrag)
    (hcontains : o.footprint.contains (s.viewport.toWorld down) = true) :
    (s.perform (.pointerDown down)).1.Holds kind target reference ⟨down, o.position.flat⟩ o := by
  have hdown : (s.perform (.pointerDown down)).1 =
      { s with
        press := some down
        phase := .manipulate kind target reference (some ⟨down, o.position.flat⟩) step } := by
    change (s.pointerDown down).1 = _
    unfold pointerDown
    rw [hphase]
    simp only [ho, hkind, hcontains, and_self, if_true]
  rw [hdown]
  exact ⟨⟨step, rfl⟩, ho⟩

/-- The object goes where the grip leads it, or the pointer leads it nowhere. -/
theorem Holds.perform_pointerMove (h : s.Holds kind target reference g o) (pixel : Point R) :
    (∃ pose, followed o kind (some g) pixel s.viewport = .ok (some pose) ∧
        (s.perform (.pointerMove pixel)).1.Holds kind target reference g (o.withPose pose)) ∨
      (∀ pose, followed o kind (some g) pixel s.viewport ≠ .ok (some pose)) ∧
        (s.perform (.pointerMove pixel)).1 = s := by
  obtain ⟨step, hphase⟩ := h.phase
  obtain ⟨t, ht, ho⟩ := object?_eq_some.1 h.object
  by_cases hfollowed : ∃ pose, followed o kind (some g) pixel s.viewport = .ok (some pose)
  · obtain ⟨pose, hpose⟩ := hfollowed
    refine .inl ⟨pose, hpose, ?_⟩
    rw [Session.perform_pointerMove hphase ht ho hpose]
    exact ⟨⟨_, rfl⟩, object?_eq_some.2 ⟨_, rfl, Table.get?_place ho⟩⟩
  · refine .inr ⟨fun pose hpose ↦ hfollowed ⟨pose, hpose⟩, ?_⟩
    cases hmove : s.pointerMove pixel with
    | error e => rw [perform, hmove]; rfl
    | ok r =>
      rw [perform, hmove]
      obtain ⟨heq, -⟩ | ⟨kind', target', reference', grip, step', t', x, pose, hphase', ht', hx, hp,
        -, -⟩ := pointerMove_cases hmove
      · exact heq
      · cases hphase.symm.trans hphase'
        obtain rfl := Option.some.inj (ht.symm.trans ht')
        obtain rfl := Option.some.inj (ho.symm.trans hx)
        exact absurd ⟨pose, hp⟩ hfollowed

/-- What each pull keeps is kept throughout the drag. -/
theorem Holds.run {P : SceneObject R → Prop}
    (hstep : ∀ o pixel v pose, v.world = s.viewport.world → P o →
      followed o kind (some g) pixel v = .ok (some pose) → P (o.withPose pose))
    (h : s.Holds kind target reference g o) (ho : P o) {ops : List (Operation R)}
    (hops : ∀ op ∈ ops, op.isPull) :
    ∃ o', (s.run ops).Holds kind target reference g o' ∧ P o' := by
  induction ops generalizing s o with
  | nil => exact ⟨o, h, ho⟩
  | cons op ops ih =>
    obtain ⟨hop, hops⟩ := List.forall_mem_cons.1 hops
    have hworld : (s.perform op).1.viewport.world = s.viewport.world :=
      (makes_perform s op).world
    rw [← hworld] at hstep
    have hnext {o' : SceneObject R} (h' : (s.perform op).1.Holds kind target reference g o')
        (ho' : P o') : ∃ o', (s.run (op :: ops)).Holds kind target reference g o' ∧ P o' :=
      ih hstep h' ho' hops
    cases op with
    | pointerMove pixel =>
      obtain ⟨pose, hpose, hholds⟩ | ⟨-, hstays⟩ := h.perform_pointerMove pixel
      · exact hnext hholds (hstep o pixel s.viewport pose hworld.symm ho hpose)
      · exact hnext (by rwa [hstays]) ho
    | resize width height => exact hnext ⟨h.phase, h.object⟩ ho
    | _ => cases hop

end Session

/-! ## Where drags end -/

variable [Scalar R]

/-! ### Bounds -/

/-- From `p` to `q`, each coordinate stays exactly what it was or lies between its bounds, if it is
a number. -/
def World.Keeps (w : World R) (p q : Point R) : Prop :=
  (q.x = p.x ∨ (IsNumber q.x → w.xMin ≤ q.x ∧ q.x ≤ w.xMax)) ∧
    (q.y = p.y ∨ (IsNumber q.y → w.yMin ≤ q.y ∧ q.y ≤ w.yMax))

section Bounds

variable [LawfulScalar R] {w : World R} {p q : Point R}

/-- A point that is kept inside on the axes that change keeps to the bounds. -/
theorem World.Reaches.keeps (h : w.Reaches p q) : w.Keeps p q :=
  ⟨h.1.imp_right fun hx ↦ between_of_clamp? hx, h.2.imp_right fun hy ↦ between_of_clamp? hy⟩

/-- A nearest point inside is inside, if there was a point at all. -/
theorem World.contains_of_clamp? (h : w.clamp? p = some q) (hx : IsNumber p.x)
    (hy : IsNumber p.y) : w.contains q = true := by
  obtain ⟨hclampx, hclampy⟩ := World.clamp?_eq_some.1 h
  obtain ⟨hxMin, hxMax⟩ := between_of_clamp? hclampx (isNumber_of_clamp? hx hclampx)
  obtain ⟨hyMin, hyMax⟩ := between_of_clamp? hclampy (isNumber_of_clamp? hy hclampy)
  simp [World.contains, hxMin, hxMax, hyMin, hyMax]

end Bounds

/-! ### Places -/

namespace Grip

variable {g : Grip R} {pixel p : Point R} {v : Viewport R}

/-- Where a drag on one axis leads: the object stays where it was until the pointer strays; then
only the coordinate changes along which the pointer has gone further, `y` if both are equal, and it
comes to lie between its bounds. -/
structure Pinned (g : Grip R) (pixel : Point R) (v : Viewport R) (p : Point R) : Prop where
  rests : ¬g.Strays pixel v → p = g.origin
  alongX : g.Strays pixel v →
    abs (g.displacement pixel v).y < abs (g.displacement pixel v).x →
      p.y = g.origin.y ∧ (IsNumber (g.ahead pixel v).x → v.world.xMin ≤ p.x ∧ p.x ≤ v.world.xMax)
  alongY : g.Strays pixel v →
    ¬abs (g.displacement pixel v).y < abs (g.displacement pixel v).x →
      p.x = g.origin.x ∧ (IsNumber (g.ahead pixel v).y → v.world.yMin ≤ p.y ∧ p.y ≤ v.world.yMax)

variable [LawfulScalar R]

/-- A drag along an axis leaves the other coordinate alone. -/
theorem pinned_of_alongAxis? (h : g.alongAxis? pixel v = some p) : g.Pinned pixel v p := by
  unfold alongAxis? at h
  dsimp only at h
  split at h
  next hnear =>
    obtain rfl := Option.some.inj h
    exact ⟨fun _ ↦ rfl, fun hstrays ↦ absurd hnear hstrays, fun hstrays ↦ absurd hnear hstrays⟩
  next hstrays =>
    split at h
    all_goals
      obtain ⟨inside, hinside, rfl⟩ := Option.map_eq_some_iff.1 h
      obtain ⟨hx, hy⟩ := World.clamp?_eq_some.1 hinside
    next haxis =>
      refine ⟨fun hnear ↦ absurd hstrays hnear, fun _ _ ↦ ⟨rfl, fun hnumber ↦ ?_⟩,
        fun _ hnot ↦ absurd haxis hnot⟩
      exact between_of_clamp? hx (isNumber_of_clamp? hnumber hx)
    next haxis =>
      refine ⟨fun hnear ↦ absurd hstrays hnear, fun _ hnot ↦ absurd hnot haxis,
        fun _ _ ↦ ⟨rfl, fun hnumber ↦ ?_⟩⟩
      exact between_of_clamp? hy (isNumber_of_clamp? hnumber hy)

omit [LawfulScalar R] in
/-- If the bounds are in order a drag on one axis leads somewhere. -/
theorem exists_alongAxis? (g : Grip R) (pixel : Point R) (hw : v.world.Ordered) :
    ∃ p, g.alongAxis? pixel v = some p :=
  Option.ne_none_iff_exists'.1 fun hnone ↦ (alongAxis?_eq_none.1 hnone).1 hw

end Grip

/-! ### Runs -/

namespace Cells

variable {c : Cells R} {kind : ActionKind} {target : ObjectId} {reference : Option ObjectId}
  {down : Point R} {o : SceneObject R}

/-- The pointer, pressed at the pixel, takes hold of the chosen object `o`. -/
structure Grabs (c : Cells R) (kind : ActionKind) (target : ObjectId)
    (reference : Option ObjectId) (down : Point R) (o : SceneObject R) : Prop where
  mode : c.mode = some kind
  stage : c.stage = .manipulate target reference none
  object : c.object? target = some o
  pressed : o.footprint.contains (c.viewport.toWorld down) = true

/-- The pointer that is pressed on the chosen object holds it. -/
theorem Grabs.holds {s : Session R} (h : s.cells.Grabs kind target reference down o)
    (hkind : kind.isDrag) :
    (s.perform (.pointerDown down)).1.Holds kind target reference ⟨down, o.position.flat⟩ o := by
  obtain ⟨kind', step, hphase⟩ := Phase.exists_of_stage_manipulate h.stage
  obtain rfl : kind' = kind := by
    have hmode : s.phase.mode = some kind := h.mode
    rw [hphase] at hmode
    exact Option.some.inj hmode
  obtain ⟨t, ht⟩ := Session.exists_table_of_object? h.object
  have ho : s.object? target = some o :=
    Session.object?_eq_some.2 ⟨t, ht, (Session.object?_cells_of_table ht target) ▸ h.object⟩
  exact Session.holds_pointerDown hphase ho hkind h.pressed

/-- A drag in the session, and in its cells. -/
theorem run_pointerDown (config : Config R) (ops pulls : List (Operation R)) (down : Point R) :
    ((start config).run ops).run (.pointerDown down :: pulls) =
      ((((Session.start config).run ops).perform (.pointerDown down)).1.run pulls).cells := by
  have hs : ((Session.start config).run ops).Coherent := (Session.coherent_start config).run ops
  rw [run_start, hs.run_cells (Session.valid_run config ops), Session.run_cons]

/-- If the bounds of the world rectangle are in order, a free drag leads into it and a drag on one
axis keeps the other coordinate and leads the moved one inside.  After every part of a drag on one
axis, with the canvas changing its size, each coordinate of the object is what it was when the drag
began or lies between its bounds. -/
theorem drags_bounded [LawfulScalar R] :
    (∀ (g : Grip R) (pixel : Point R) (v : Viewport R), v.world.Ordered →
      (∃ p, g.free? pixel v = some p ∧ (IsNumber (g.ahead pixel v).x →
        IsNumber (g.ahead pixel v).y → v.world.contains p = true)) ∧
      ∃ p, g.alongAxis? pixel v = some p ∧ g.Pinned pixel v p) ∧
    ∀ (config : Config R) (ops : List (Operation R)) {target : ObjectId}
      {reference : Option ObjectId} {down : Point R} {o : SceneObject R},
      ((start config).run ops).Grabs .putNear target reference down o →
        ∀ pulls : List (Operation R), (∀ op ∈ pulls, op.isPull) →
          ∃ o', (((start config).run ops).run (.pointerDown down :: pulls)).object? target =
            some o' ∧ config.world.Keeps o.position.flat o'.position.flat := by
  refine ⟨fun g pixel v hw ↦ ⟨?_, ?_⟩,
    fun config ops target reference down o hgrabs pulls hpulls ↦ ?_⟩
  · obtain ⟨p, hp⟩ := hw.clamp?_isSome (g.ahead pixel v)
    exact ⟨p, hp, fun hx hy ↦ World.contains_of_clamp? hp hx hy⟩
  · obtain ⟨p, hp⟩ := g.exists_alongAxis? pixel hw
    exact ⟨p, hp, Grip.pinned_of_alongAxis? hp⟩
  · rw [run_start] at hgrabs
    have hholds := hgrabs.holds rfl
    -- wherever the grip leads the object, it leads it there from the place where it was taken
    have hstep (x : SceneObject R) (pixel : Point R) (v : Viewport R) (pose : Pose R)
        (hv : v.world = config.world) (_ : config.world.Reaches o.position.flat x.position.flat)
        (hp : Session.followed x .putNear (some ⟨down, o.position.flat⟩) pixel v =
          .ok (some pose)) :
        config.world.Reaches o.position.flat (x.withPose pose).position.flat := by
      obtain ⟨hkind, -⟩ | ⟨g, hg, ⟨-, halong⟩ | ⟨hkind, -⟩⟩ := followed_cases hp
      · cases hkind
      · obtain rfl := Option.some.inj hg
        rw [← hv]
        exact Grip.reaches_of_alongAxis? (v.world.reaches_self _) halong
      · cases hkind
    have hworld : (((Session.start config).run ops).perform (.pointerDown down)).1.viewport.world =
        config.world := by
      have hs := ((Session.coherent_start config).run ops).perform (.pointerDown down)
      rw [hs.world, (Session.makes_perform _ _).config, Session.run_config]
      rfl
    obtain ⟨o', ho', hreaches⟩ := hholds.run (P := fun x ↦ config.world.Reaches o.position.flat
      x.position.flat) (by rwa [hworld]) (config.world.reaches_self _) hpulls
    refine ⟨o', ?_, hreaches.keeps⟩
    rw [run_pointerDown]
    exact ho'.object?_cells

/-- The pea lies outside of the rectangle and is dragged near the cup while the canvas grows. -/
theorem drags_bounded_pea :
    let config : Config Float := ⟨⟨1, 2, 1, 2⟩, 50, 5⟩
    let c := (start config).run [Kitchen.loadPea, .choose .putNear, .clickObject "pea",
      .clickObject "cup", .resize 200 200]
    let pulls : List (Operation Float) := [.pointerMove ⟨90, 70⟩, .resize 300 300,
      .pointerMove ⟨70, 200⟩]
    let g : Grip Float := ⟨⟨60, 60⟩, Kitchen.pea.position.flat⟩
    (config.world.Ordered ∧ c.Grabs .putNear "pea" (some "cup") ⟨60, 60⟩ Kitchen.pea) ∧
      (∃ p, g.free? ⟨90, 70⟩ c.viewport = some p ∧ config.world.contains p = true) ∧
        ∃ o, (c.run (.pointerDown ⟨60, 60⟩ :: pulls)).object? "pea" = some o ∧
          config.world.Keeps Kitchen.pea.position.flat o.position.flat := by
  intro config c pulls g
  have hw : config.world.Ordered := by decide +kernel
  have hgrabs : c.Grabs .putNear "pea" (some "cup") ⟨60, 60⟩ Kitchen.pea :=
    ⟨rfl, rfl, rfl, SceneObject.contains_footprint rfl rfl rfl rfl _⟩
  have hbounded := drags_bounded (R := Float)
  obtain ⟨⟨p, hp, hcontains⟩, -⟩ := hbounded.1 g ⟨90, 70⟩ c.viewport hw
  have hx : IsNumber (g.ahead ⟨90, 70⟩ c.viewport).x := by decide +kernel
  have hy : IsNumber (g.ahead ⟨90, 70⟩ c.viewport).y := by decide +kernel
  exact ⟨⟨hw, hgrabs⟩, ⟨p, hp, hcontains hx hy⟩,
    hbounded.2 config _ hgrabs pulls (by decide)⟩

end Cells

end Rearrangement
