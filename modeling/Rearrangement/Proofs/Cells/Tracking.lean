import Rearrangement.Proofs.Binary64.Difference
import Rearrangement.Proofs.Cells.Bounds

/-!
# Previews have no memory

While an object follows the pointer, its pose, the relations and the action that would be recorded
are those of the last pixel.  Where the pointer has been before, and how often, leaves no trace in
any cell, nor in what the last move answers (`run_pointerMoves_eq`).

Where an object goes under the pointer is found anew from every pixel.  What is read of the object
is not what the pointer changes: a turned object keeps its place, and a dragged one its height and
its orientation (`followed_withPose`).  So each move of the pointer undoes the one before
(`perform_pointerMove_pointerMove`), and the series of moves is an induction on it.

That the last move goes through if the one before has needs the viewport to be steady: either the
bounds of the world rectangle are in order, or all pixels show the same point.  A viewport has no
scale unless both extents are positive, and so every session has a steady one (`steady_run`).

## Main statements

* `viewport_perform`, `steady_run`: nothing but a resize touches the viewport, and it is always
  steady.
* `perform_pointerMove_pointerMove`: of two moves the second counts.
* `run_pointerMoves_eq`: of two series of moves that end at one pixel, in any reachable cells.
-/

namespace Rearrangement

/-! ## Following the pointer -/

open Scalar

variable {R : Type} [Scalar R]

/-! ### Viewports -/

namespace Viewport

variable {v : Viewport R} {p q : Point R}

/-- The bounds of the shown rectangle are in order, or all pixels show its centre. -/
def Steady (v : Viewport R) : Prop := v.world.Ordered ∨ v.scale ≤ 0

/-- A viewport without a scale takes every pixel to the centre of the world. -/
theorem toWorld_of_not_pos (h : v.scale ≤ 0) (p : Point R) : v.toWorld p = v.world.center :=
  if_pos h

theorem steady_unsized [RangedScalar R] (w : World R) (padding : R) :
    (unsized w padding).Steady := .inr RangedScalar.isNumber_zero

/-- Every size keeps the viewport steady. -/
theorem steady_resize [RangedScalar R] [DifferenceScalar R] (v : Viewport R) (width height : R) :
    (v.resize width height).Steady := by
  by_cases h : 0 < v.world.yRange ∧ 0 < v.world.xRange
  · exact .inl ⟨DifferenceScalar.le_of_sub_pos h.2, DifferenceScalar.le_of_sub_pos h.1⟩
  · refine .inr ?_
    rw [show (v.resize width height).scale = 0 from if_neg h]
    exact RangedScalar.isNumber_zero

end Viewport

namespace Session

variable {s s' : Session R} {es : List (Effect R)} {t : Table R} {kind : ActionKind}
  {target id : ObjectId} {before : Table R} {pixel : Point R} {op : Operation R}

omit [Scalar R] in
/-- Finishing leaves the viewport as it is; the lemmas below say so of every operation but a
resize. -/
theorem viewport_of_finish (h : s.finish = .ok (s', es)) : s'.viewport = s.viewport := by
  obtain ⟨a, -, rfl, -⟩ := finish_cases h
  rfl

omit [Scalar R] in
theorem viewport_of_clickEmpty (h : s.clickEmpty = .ok (s', es)) :
    s'.viewport = s.viewport := by
  obtain h | ⟨-, ⟨rfl, -⟩ | ⟨kind, -, rfl, -⟩⟩ := clickEmpty_cases h
  · exact viewport_of_finish h
  · rfl
  · rfl

theorem viewport_of_clickObject (h : s.clickObject id = .ok (s', es)) :
    s'.viewport = s.viewport := by
  obtain ⟨rfl, -⟩ | ⟨t, x, -, -, ⟨kind, -, h⟩ | ⟨kind, target, before, -, h⟩⟩ := clickObject_cases h
  · rfl
  · obtain ⟨-, h⟩ | ⟨-, ⟨-, rfl⟩ | ⟨-, -, rfl⟩⟩ := selectTarget_cases h
    · obtain ⟨container, lid, pose, -, -, rfl, -⟩ := toggleLid_cases h
      rfl
    · rfl
    · rfl
  · obtain ⟨-, -, moving, anchor, -, -, -, ⟨-, rfl⟩ | ⟨-, pose, -, rfl⟩⟩ :=
      selectReference_cases h
    · rfl
    · rfl

theorem viewport_of_click (h : s.click pixel = .ok (s', es)) : s'.viewport = s.viewport := by
  obtain h | ⟨id, h⟩ := click_cases h
  · exact viewport_of_clickEmpty h
  · exact viewport_of_clickObject h

theorem viewport_of_pointerMove (h : s.pointerMove pixel = .ok (s', es)) :
    s'.viewport = s.viewport := by
  obtain ⟨rfl, -⟩ | ⟨kind, target, reference, grip, step, t, x, p, -, -, -, -, rfl, -⟩ :=
    pointerMove_cases h
  · rfl
  · rfl

theorem viewport_of_pointerUp (s : Session R) (pixel : Point R) :
    (s.pointerUp pixel).1.viewport = s.viewport := by
  obtain ⟨es, -, h⟩ | ⟨e, h⟩ | ⟨-, s', es, hclick, h⟩ := s.pointerUp_cases pixel
  all_goals rw [h]
  · exact viewport_release s
  · exact viewport_release s
  · exact (viewport_of_click hclick).trans (viewport_release s)

theorem viewport_of_pointerDown (s : Session R) (pixel : Point R) :
    (s.pointerDown pixel).1.viewport = s.viewport := by
  obtain h | ⟨kind, target, reference, step, t, x, -, -, -, -, h⟩ := s.pointerDown_cases pixel
  all_goals rw [h]

omit [Scalar R] in
theorem viewport_of_cancel (s : Session R) : s.cancel.1.viewport = s.viewport := by
  unfold cancel
  split <;> rfl

omit [Scalar R] in
theorem viewport_of_deliver (s : Session R) (ticket : LoadTicket)
    (answer : Except CollaboratorError (SceneBundle R)) :
    (s.deliver ticket answer).1.viewport = s.viewport := by
  unfold deliver
  split
  next s' o h =>
    obtain ⟨rfl, -⟩ | ⟨b, t, -, -, rfl, -⟩ := completeLoad_cases h
    · rfl
    · rfl
  next => rfl

theorem viewport_of_replay {a b : Action R} (h : s.replay a = .ok (s', b)) :
    s'.viewport = s.viewport := by
  obtain ⟨t, -, h⟩ := bind_eq_ok.1 h
  obtain ⟨p, -, h⟩ := bind_eq_ok.1 h
  obtain ⟨rfl, -⟩ := Prod.mk.inj (Except.ok.inj h)
  rfl

omit [Scalar R] in
/-- Whatever leaves the viewport as it is does so too when its failure is reported. -/
theorem viewport_of_settle {α ε : Type} {cause : ε → SessionError} {outcome : α → Outcome R}
    {x : Except ε (Session R × α)} (h : ∀ s' a, x = .ok (s', a) → s'.viewport = s.viewport) :
    (s.settle cause outcome x).1.viewport = s.viewport := by
  cases x with
  | ok r => exact h r.1 r.2 rfl
  | error e => rfl

/-- Nothing but a resize touches the viewport. -/
theorem viewport_perform (s : Session R) (op : Operation R) :
    (s.perform op).1.viewport = match op with
      | .resize width height => s.viewport.resize width height
      | _ => s.viewport := by
  cases op with
  | beginLoad | resize | choose | requestSave | completeSave => rfl
  | completeLoad ticket answer => exact viewport_of_deliver s ticket answer
  | load b => exact viewport_of_deliver (s.beginLoad b.scene.taskId).1 _ (.ok b)
  | click pixel => exact viewport_of_settle fun s' es h ↦ viewport_of_click h
  | clickObject id => exact viewport_of_settle fun s' es h ↦ viewport_of_clickObject h
  | clickEmpty => exact viewport_of_settle fun s' es h ↦ viewport_of_clickEmpty h
  | pointerDown pixel => exact viewport_of_pointerDown s pixel
  | pointerMove pixel => exact viewport_of_settle fun s' es h ↦ viewport_of_pointerMove h
  | pointerUp pixel => exact viewport_of_pointerUp s pixel
  | finish => exact viewport_of_settle fun s' es h ↦ viewport_of_finish h
  | cancel => exact viewport_of_cancel s
  | replay a => exact viewport_of_settle fun s' b h ↦ viewport_of_replay h

/-- The viewport is steady after any operations. -/
theorem steady_run [RangedScalar R] [DifferenceScalar R] (config : Config R)
    (ops : List (Operation R)) : ((start config).run ops).viewport.Steady := by
  refine run_induction (P := fun s ↦ s.viewport.Steady) (fun s op h ↦ ?_)
    (Viewport.steady_unsized _ _) ops
  rw [viewport_perform]
  cases op with
  | resize width height => exact s.viewport.steady_resize width height
  | _ => exact h

/-! ### Moves of the pointer -/

section Moves

variable {o x : SceneObject R} {grip : Option (Grip R)} {p q : Point R} {v : Viewport R}
  {pose : Pose R} {reference : Option ObjectId} {step : Step R}

/-- What is read of an object that follows the pointer is not changed by that. -/
theorem followed_withPose (h : followed o kind grip p v = .ok (some pose)) (q : Point R) :
    followed (o.withPose pose) kind grip q v = followed o kind grip q v := by
  unfold followed at h
  split at h
  next =>
    obtain rfl := Option.some.inj (Except.ok.inj h)
    rfl
  next g =>
    dsimp only at h
    split at h
    next =>
      obtain rfl := Option.some.inj (Except.ok.inj h)
      rfl
    next => cases h
  next g =>
    dsimp only at h
    split at h
    next =>
      obtain rfl := Option.some.inj (Except.ok.inj h)
      rfl
    next => cases h
  next => cases h

/-- Pixels that show the same point lead an object to the same place. -/
theorem followed_congr (h : v.toWorld p = v.toWorld q) :
    followed o kind grip p v = followed o kind grip q v := by
  have hdisplacement (g : Grip R) : g.displacement p v = g.displacement q v := by
    rw [Grip.displacement, Grip.displacement, h]
  have hfree (g : Grip R) : g.free? p v = g.free? q v := by
    rw [Grip.free?, Grip.free?, hdisplacement]
  have halong (g : Grip R) : g.alongAxis? p v = g.alongAxis? q v := by
    rw [Grip.alongAxis?, Grip.alongAxis?, hdisplacement]
  have hturn : o.turnToward p v = o.turnToward q v := by
    rw [SceneObject.turnToward, SceneObject.turnToward, h]
  simp only [followed, hfree, halong, hturn]

/-- In a steady viewport an object that follows the pointer somewhere follows it everywhere. -/
theorem exists_followed (hv : v.Steady) (h : followed o kind grip p v = .ok (some pose))
    (q : Point R) : ∃ pose', followed o kind grip q v = .ok (some pose') := by
  rcases hv with hw | hscale
  · rcases followed_cases h with ⟨rfl, -⟩ | ⟨g, hg, ⟨rfl, -⟩ | ⟨rfl, -⟩⟩
    · exact ⟨_, rfl⟩
    all_goals obtain rfl : grip = some g := hg
    · obtain ⟨c, hc⟩ := Option.ne_none_iff_exists'.1
        fun hnone : g.alongAxis? q v = none ↦ (Grip.alongAxis?_eq_none.1 hnone).1 hw
      exact ⟨⟨⟨c.x, c.y, o.position.z⟩, o.orientation⟩, by simp only [followed, hc]⟩
    · obtain ⟨c, hc⟩ := Option.ne_none_iff_exists'.1
        fun hnone : g.free? q v = none ↦ Grip.free?_eq_none.1 hnone hw
      exact ⟨⟨⟨c.x, c.y, o.position.z⟩, o.orientation⟩, by simp only [followed, hc]⟩
  · -- all pixels show the centre
    refine ⟨pose, ?_⟩
    rw [followed_congr (q := p) (by rw [v.toWorld_of_not_pos hscale, v.toWorld_of_not_pos hscale])]
    exact h

/-- The object follows the pointer. -/
theorem perform_pointerMove (hphase : s.phase = .manipulate kind target reference grip step)
    (htable : s.table = some t) (hx : t.scene.get? target = some x)
    (h : followed x kind grip p s.viewport = .ok (some pose)) :
    s.perform (.pointerMove p) = ({ s with
      table := some (t.place kind target pose reference)
      phase := .manipulate kind target reference grip
        { step with action := some ⟨kind, target, reference, pose⟩ } },
      .effects [.renderNeeded]) := by
  rw [perform, pointerMove, hphase, htable]
  simp only [hx, h]
  rfl

/-- A move of the pointer leaves nothing of the one before. -/
theorem perform_pointerMove_pointerMove (hv : s.viewport.Steady) (p q : Point R) :
    (s.perform (.pointerMove p)).1.perform (.pointerMove q) = s.perform (.pointerMove q) := by
  cases hmove : s.pointerMove p with
  | error e =>
    rw [show (s.perform (.pointerMove p)).1 = s by rw [perform, hmove]; rfl]
  | ok r =>
    obtain ⟨s', es⟩ := r
    rw [show (s.perform (.pointerMove p)).1 = s' by rw [perform, hmove]; rfl]
    obtain ⟨rfl, -⟩ | ⟨kind, target, reference, grip, step, t, x, pose, hphase, htable, hx, hp, hs',
      -⟩ := pointerMove_cases hmove
    · rfl
    · obtain ⟨pose', hq⟩ := exists_followed hv hp q
      have hx' : (t.place kind target pose reference).scene.get? target =
          some (x.withPose pose) := Table.get?_place hx
      have hq' : followed (x.withPose pose) kind grip q s'.viewport = .ok (some pose') := by
        rw [hs', followed_withPose hp, hq]
      rw [perform_pointerMove hphase htable hx hq,
        perform_pointerMove (congrArg phase hs') (congrArg table hs') hx' hq', hs',
        Table.place_place]

/-- Of a series of moves only the last one counts. -/
theorem perform_run_pointerMoves (hv : s.viewport.Steady) (ps : List (Point R)) (q : Point R) :
    (s.run (ps.map .pointerMove)).perform (.pointerMove q) = s.perform (.pointerMove q) := by
  induction ps generalizing s with
  | nil => rfl
  | cons p ps ih =>
    have hv' : (s.perform (.pointerMove p)).1.viewport.Steady := by
      rw [viewport_perform]
      exact hv
    rw [List.map_cons, run_cons, ih hv', perform_pointerMove_pointerMove hv]

end Moves

end Session

/-! ## Series of moves -/

namespace Cells

variable [RangedScalar R] [DifferenceScalar R]

/-- From every state that can be reached, series of pointer moves that end at the same pixel lead to
the same cells, and their last moves answer the same. -/
theorem run_pointerMoves_eq (config : Config R) (ops : List (Operation R)) (ps qs : List (Point R))
    (pixel : Point R) :
    let c := (start config).run ops
    c.run ((ps ++ [pixel]).map .pointerMove) = c.run ((qs ++ [pixel]).map .pointerMove) ∧
      (c.run (ps.map .pointerMove)).answer (.pointerMove pixel) =
        (c.run (qs.map .pointerMove)).answer (.pointerMove pixel) := by
  intro c
  have hs (ops : List (Operation R)) : ((Session.start config).run ops).Coherent :=
    (Session.coherent_start config).run ops
  have hcells (rs : List (Point R)) : c.run (rs.map .pointerMove) =
      ((Session.start config).run (ops ++ rs.map .pointerMove)).cells := by
    rw [Session.run_append, ← (hs ops).run_cells (Session.valid_run config ops), ← run_start]
  -- the last move finds what it would have found without the others
  have hlast (rs : List (Point R)) :
      ((Session.start config).run (ops ++ rs.map .pointerMove)).perform (.pointerMove pixel) =
        ((Session.start config).run ops).perform (.pointerMove pixel) := by
    rw [Session.run_append]
    exact Session.perform_run_pointerMoves (Session.steady_run config ops) rs pixel
  have hafter (rs : List (Point R)) : c.run ((rs ++ [pixel]).map .pointerMove) =
      (((Session.start config).run ops).perform (.pointerMove pixel)).1.cells := by
    rw [hcells, List.map_append, ← List.append_assoc, Session.run_append, ← hlast rs]
    rfl
  have hanswer (rs : List (Point R)) : (c.run (rs.map .pointerMove)).answer (.pointerMove pixel) =
      c.answer (.pointerMove pixel) := by
    rw [hcells, (hs _).answer_cells (Session.valid_run config _), hlast rs,
      ← (hs ops).answer_cells (Session.valid_run config ops), ← run_start]
  exact ⟨(hafter ps).trans (hafter qs).symm, (hanswer ps).trans (hanswer qs).symm⟩

/-- An object is turned, with and without a detour of the pointer. -/
theorem run_pointerMoves_eq_turned :
    let c := (start Kitchen.config).run [Kitchen.loadOpen, .choose .rotate, .clickObject "cup"]
    (c.stage = .manipulate "cup" none none ∧ c.mode = some .rotate) ∧
      c.run ([⟨100, 0⟩, ⟨0, 100⟩, ⟨30, 40⟩].map .pointerMove) =
        c.run ([⟨30, 40⟩].map .pointerMove) :=
  ⟨⟨rfl, rfl⟩, (run_pointerMoves_eq Kitchen.config _ [⟨100, 0⟩, ⟨0, 100⟩] [] ⟨30, 40⟩).1⟩

end Cells

end Rearrangement
