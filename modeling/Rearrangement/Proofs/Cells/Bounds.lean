import Rearrangement.Proofs.Cells.Coherence

/-!
# Where a session breaks off

Of all that a handler does, one thing can fail for which there is no answer: a point is kept inside
a world rectangle whose bounds are not in order.  The rectangle is taken from the configuration as
it is.  The viewport makes do with any rectangle, and so do all operations but those that lead an
object somewhere: `Cells.Clamps` are the moves of the pointer and the replays that keep a point
inside.  If the bounds are in order nothing ever breaks off, and otherwise exactly these operations
do, wherever they lead (`breaksOff_run_iff`).

## Main statements

* `World.clamp?_eq_none`, `Grip.free?_eq_none`, `Grip.alongAxis?_eq_none`: when a point cannot be
  kept inside, and when a drag asks for it.
* `Coherent.failed_iff_clamps`: an operation on a session fails for the bounds exactly if they are
  not in order and the operation keeps a point inside.
* `breaksOff_run_iff`: so it is for the cells after any run, and with bounds in order nothing breaks
  off at all.
* `breaksOff_in_place`: a replay that leads nowhere and breaks off.

A handler goes through questions that may be refused before it comes to the bounds, so each lemma
says where in that order the bounds are asked for: a refusal that comes before hides the failure
(`asked_bind_eq_unordered`).  The cells follow the session (`Coherent.breaksOff_cells`), and only
the session is opened.
-/

namespace Rearrangement

open Scalar

variable {R : Type} [Scalar R]

/-- There is no answer for the caller: a point could not be kept inside the world rectangle, or the
relations that were just written do not hold together. -/
def Halt.BreaksOff (h : Halt) : Prop := h = .refused .unorderedWorld ∨ ∃ v, h = .broken v

/-- The pointer has gone so far that an object kept on one axis is led along. -/
def Grip.Strays (g : Grip R) (pixel : Point R) (v : Viewport R) : Prop :=
  ¬(abs (g.displacement pixel v).x < epsilon ∧ abs (g.displacement pixel v).y < epsilon)

namespace Cells

/-- The operation breaks off. -/
def BreaksOff (c : Cells R) (op : Operation R) : Prop :=
  ∃ h : Halt, c.answer op = .error h ∧ h.BreaksOff

/-- The operation keeps a point inside the world rectangle: a held object is led by the pointer, or
a drag is replayed that finds its objects. -/
def Clamps (c : Cells R) : Operation R → Prop
  | .pointerMove pixel => ∃ target reference g, c.stage = .manipulate target reference (some g) ∧
      (c.mode = some .move ∨ c.mode = some .putNear ∧ g.Strays pixel c.viewport)
  | .replay a => a.kind.isDrag ∧ (∃ o, c.object? a.object = some o) ∧
      (a.kind = .putNear → ∃ x o, a.reference = some x ∧ x ≠ a.object ∧ c.object? x = some o)
  | _ => False

end Cells

/-! ## Keeping a point inside -/

section Bounds

variable {w : World R} {v : Viewport R} {g : Grip R} {pixel p q : Point R}

/-- There is no nearest point inside just if the bounds are not in order. -/
theorem World.clamp?_eq_none : w.clamp? p = none ↔ ¬w.Ordered := by
  constructor
  · intro h hw
    obtain ⟨q, hq⟩ := hw.clamp?_isSome p
    cases h.symm.trans hq
  · intro hw
    rw [Option.eq_none_iff_forall_ne_some]
    exact fun q hq ↦ hw (World.ordered_of_clamp? hq)

theorem World.clampMoved?_eq_none : w.clampMoved? p q = none ↔ ¬w.Ordered := by
  rw [clampMoved?, Option.map_eq_none_iff, clamp?_eq_none]

/-- A free drag breaks off with any rectangle whose bounds are not in order. -/
theorem Grip.free?_eq_none : g.free? pixel v = none ↔ ¬v.world.Ordered := World.clamp?_eq_none

/-- A drag along an axis breaks off only once the pointer has strayed: before that nothing is kept
inside. -/
theorem Grip.alongAxis?_eq_none :
    g.alongAxis? pixel v = none ↔ ¬v.world.Ordered ∧ g.Strays pixel v := by
  unfold alongAxis? Strays
  dsimp only
  split
  next h => exact ⟨nofun, fun hnone ↦ absurd h hnone.2⟩
  next h =>
    split
    all_goals
      rw [Option.map_eq_none_iff, World.clamp?_eq_none]
      exact ⟨fun hw ↦ ⟨hw, h⟩, fun hnone ↦ hnone.1⟩

end Bounds

/-! ## Following the pointer, and replaying -/

/-- A sequence fails where its first part does or where what follows does. -/
theorem bind_eq_error {ε α β : Type} {x : Except ε α} {f : α → Except ε β} {e : ε} :
    x >>= f = .error e ↔ x = .error e ∨ ∃ a, x = .ok a ∧ f a = .error e := by
  cases x <;> simp [bind, Except.bind]

/-- A question that is answered with a refusal is no reason to break off. -/
theorem asked_bind_eq_unordered {α β : Type} {x : Except PreconditionViolation α}
    {f : α → Except SessionError β} : x.mapError .precondition >>= f = .error .unorderedWorld ↔
      ∃ a, x = .ok a ∧ f a = .error .unorderedWorld := by
  cases x <;> simp [Except.mapError, bind, Except.bind]

namespace Session

variable {s : Session R} {e : SessionError} {o : SceneObject R} {kind : ActionKind}
  {grip : Option (Grip R)} {pixel : Point R} {v : Viewport R}

/-- Where an object goes under the pointer is not found just if it is dragged and its place has to
be kept inside a rectangle without inside. -/
theorem followed_eq_error : followed o kind grip pixel v = .error e ↔
    e = .unorderedWorld ∧ ¬v.world.Ordered ∧
      ∃ g, grip = some g ∧ (kind = .move ∨ kind = .putNear ∧ g.Strays pixel v) := by
  unfold followed
  split
  next => simp
  next g =>
    cases halong : g.alongAxis? pixel v with
    | some p =>
      have hne : ¬(¬v.world.Ordered ∧ g.Strays pixel v) :=
        fun h ↦ nomatch halong.symm.trans (Grip.alongAxis?_eq_none.2 h)
      simp_all
    | none =>
      obtain ⟨hw, hstrays⟩ := Grip.alongAxis?_eq_none.1 halong
      simp [hw, hstrays, eq_comm]
  next g =>
    cases hfree : g.free? pixel v with
    | some p =>
      have hw : v.world.Ordered :=
        not_not.1 fun h ↦ nomatch hfree.symm.trans (Grip.free?_eq_none.2 h)
      simp [hw]
    | none => simp [Grip.free?_eq_none.1 hfree, eq_comm]
  next hnear hmove =>
    refine ⟨nofun, ?_⟩
    rintro ⟨-, -, g, rfl, rfl | ⟨rfl, -⟩⟩
    · exact absurd rfl (hmove g rfl)
    · exact absurd rfl (hnear g rfl)

/-- A move of the pointer breaks off just if the place of the object that it leads is not found. -/
theorem pointerMove_eq_error : s.pointerMove pixel = .error e ↔
    ∃ kind target reference grip step t o, s.phase = .manipulate kind target reference grip step ∧
      s.table = some t ∧ t.scene.get? target = some o ∧
        followed o kind grip pixel s.viewport = .error e := by
  unfold pointerMove
  constructor
  · intro h
    split at h
    next kind target reference grip step t hphase htable =>
      split at h
      next o ho =>
        refine ⟨kind, target, reference, grip, step, t, o, hphase, htable, ho, ?_⟩
        rcases bind_eq_error.1 h with h | ⟨p?, -, h⟩
        · exact h
        · cases p? <;> cases h
      next => cases h
    next => cases h
  · rintro ⟨kind, target, reference, grip, step, t, o, hphase, htable, ho, h⟩
    rw [hphase, htable]
    simp only [ho]
    exact bind_eq_error.2 (.inl h)

end Session

namespace Table

variable {t : Table R} {w : World R} {a : Action R}

/-- A replay breaks off for the rectangle just if it is a drag and nothing else is wrong with it
before. -/
theorem replayPose_eq_unordered : t.replayPose w a = .error .unorderedWorld ↔
    ¬w.Ordered ∧ a.kind.isDrag ∧ (∃ o, t.scene.get? a.object = some o) ∧
      (a.kind = .putNear →
        ∃ x o, a.reference = some x ∧ x ≠ a.object ∧ t.scene.get? x = some o) := by
  obtain ⟨kind, object, ref, pose⟩ := a
  unfold replayPose
  simp only [asked_bind_eq_unordered, require_eq_ok, replayReference_eq_ok]
  constructor
  · rintro ⟨o, ho, anchor?, hreference, h⟩
    cases kind
    -- only drags ask for the bounds; the other kinds answer with a refusal or a pose
    case openLid | closeLid =>
      obtain ⟨_, anchor, -, -, -, rfl⟩ := hreference
      obtain ⟨⟨lid, p⟩, -, h⟩ := asked_bind_eq_unordered.1 h
      by_cases hlid : lid = object
      · simp [hlid, pure, Except.pure] at h
      · simp [hlid, throw, throwThe, MonadExceptOf.throw, bind, Except.bind] at h
    case putIn | putOn =>
      obtain ⟨_, anchor, -, -, -, rfl⟩ := hreference
      obtain ⟨-, -, h⟩ := asked_bind_eq_unordered.1 h
      cases h
    case putNear =>
      obtain ⟨x, anchor, hx, hne, hanchor, rfl⟩ := hreference
      dsimp only at h
      split at h
      next => cases h
      next hnone =>
        have hw : ¬w.Ordered := World.clampMoved?_eq_none.1 hnone
        exact ⟨hw, rfl, ⟨o, ho⟩, fun _ ↦ ⟨x, anchor, hx, hne, hanchor⟩⟩
    case move =>
      dsimp only at h
      split at h
      next => cases h
      next hnone => exact ⟨World.clampMoved?_eq_none.1 hnone, rfl, ⟨o, ho⟩, nofun⟩
    case rotate => cases h
  · rintro ⟨hw, hdrag, ⟨o, ho⟩, hreference⟩
    have hnone := World.clampMoved?_eq_none (p := o.position.flat) (q := pose.position.flat) |>.2 hw
    refine ⟨o, ho, ?_⟩
    cases kind <;> simp only [ActionKind.isDrag, reduceCtorEq] at hdrag
    case putNear =>
      obtain ⟨x, anchor, hx, hne, hanchor⟩ := hreference rfl
      refine ⟨some anchor, ⟨x, anchor, hx, hne, hanchor, rfl⟩, ?_⟩
      simp only [hnone]
    case move =>
      refine ⟨none, rfl, ?_⟩
      simp only [hnone]

end Table

/-! ## Runs -/

namespace Session

variable {s : Session R} {op : Operation R}

omit [Scalar R] in
theorem failed_settle {α ε : Type} {cause : ε → SessionError} {outcome : α → Outcome R}
    {x : Except ε (Session R × α)} {e : SessionError} (h : ∀ a, outcome a ≠ .failed e) :
    (s.settle cause outcome x).2 = .failed e ↔ ∃ v, x = .error v ∧ cause v = e := by
  cases x with
  | ok r => simpa [settle] using h r.2
  | error v => simp [settle]

omit [Scalar R] in
theorem failed_outcomeOf {α ε : Type} {cause : ε → SessionError} {outcome : α → Outcome R}
    {x : Except ε α} {e : SessionError} (h : ∀ a, outcome a ≠ .failed e) :
    outcomeOf cause outcome x = .failed e ↔ ∃ v, x = .error v ∧ cause v = e := by
  cases x with
  | ok a => simpa [outcomeOf] using h a
  | error v => simp [outcomeOf]

/-- The cells break off just where the session fails for the bounds. -/
theorem Coherent.breaksOff_cells (hs : s.Coherent) (hvalid : s.progress.Valid) :
    s.cells.BreaksOff op ↔ (s.perform op).2 = .failed .unorderedWorld := by
  unfold Cells.BreaksOff Halt.BreaksOff
  rw [hs.answer_cells hvalid]
  cases (s.perform op).2 <;> simp

omit [Scalar R] in
theorem object?_cells_of_table {t : Table R} (h : s.table = some t) (x : ObjectId) :
    s.cells.object? x = t.scene.get? x := by
  rw [Cells.object?, scene_cells h]
  rfl

omit [Scalar R] in
theorem exists_table_of_object? {x : ObjectId} {o : SceneObject R}
    (h : s.cells.object? x = some o) : ∃ t, s.table = some t := by
  obtain ⟨scene, hscene, -⟩ := Option.bind_eq_some_iff.1 h
  obtain ⟨t, ht, -⟩ := Option.map_eq_some_iff.1 hscene
  exact ⟨t, ht⟩

/-- The pointer leads a held object exactly if the cells say so. -/
theorem Coherent.pointerMove_eq_unordered (hs : s.Coherent) (hchosen : s.progress.Chosen)
    {pixel : Point R} : s.pointerMove pixel = .error .unorderedWorld ↔
      ¬s.config.world.Ordered ∧ s.cells.Clamps (.pointerMove pixel) := by
  rw [pointerMove_eq_error, ← hs.world]
  constructor
  · rintro ⟨kind, target, reference, grip, step, t, o, hphase, -, -, hfollowed⟩
    obtain ⟨-, hw, g, rfl, hkind⟩ := followed_eq_error.1 hfollowed
    refine ⟨hw, target, reference, g, congrArg Phase.stage hphase, ?_⟩
    change s.phase.mode = _ ∨ s.phase.mode = _ ∧ _
    rw [hphase]
    exact hkind.imp (congrArg some) fun h ↦ ⟨congrArg some h.1, h.2⟩
  · rintro ⟨hw, target, reference, g, hstage, hmode⟩
    obtain ⟨kind, step, hphase⟩ := Phase.exists_of_stage_manipulate hstage
    change s.phase.mode = _ ∨ s.phase.mode = _ ∧ _ at hmode
    have htarget : s.phase.target = some target := by rw [hphase]; rfl
    obtain ⟨t, o, ht, ho⟩ := hs.sound.exists_chosen hchosen (.inl htarget)
    rw [hphase] at hmode
    refine ⟨kind, target, reference, some g, step, t, o, hphase, ht, ho, ?_⟩
    exact followed_eq_error.2 ⟨rfl, hw, g, rfl,
      hmode.imp Option.some.inj fun h ↦ ⟨Option.some.inj h.1, h.2⟩⟩

/-- A replay fails for the bounds just if it has to keep a point inside. -/
theorem replay_eq_unordered {a : Action R} : s.replay a = .error .unorderedWorld ↔
    ¬s.config.world.Ordered ∧ s.cells.Clamps (.replay a) := by
  unfold replay
  rw [asked_bind_eq_unordered]
  constructor
  · rintro ⟨t, ht, h⟩
    obtain hpose | ⟨p, -, h⟩ := bind_eq_error.1 h
    · obtain ⟨hw, hdrag, hobject, hreference⟩ := Table.replayPose_eq_unordered.1 hpose
      have hfound (x : ObjectId) : s.cells.object? x = t.scene.get? x :=
        object?_cells_of_table (loaded_eq_ok.1 ht) x
      refine ⟨hw, hdrag, ?_, ?_⟩
      · simpa only [hfound] using hobject
      · simpa only [hfound] using hreference
    · cases h
  · rintro ⟨hw, hdrag, ⟨o, ho⟩, hreference⟩
    obtain ⟨t, ht⟩ := exists_table_of_object? ho
    simp only [object?_cells_of_table ht] at ho hreference
    refine ⟨t, loaded_eq_ok.2 ht, bind_eq_error.2 (.inl ?_)⟩
    exact Table.replayPose_eq_unordered.2 ⟨hw, hdrag, ⟨o, ho⟩, hreference⟩

/-- An operation fails for the bounds just if they are not in order and the operation keeps a point
inside. -/
theorem Coherent.failed_iff_clamps (hs : s.Coherent) (hchosen : s.progress.Chosen) :
    (s.perform op).2 = .failed .unorderedWorld ↔
      ¬s.config.world.Ordered ∧ s.cells.Clamps op := by
  cases op with
  | pointerMove pixel =>
    rw [← hs.pointerMove_eq_unordered hchosen]
    exact (failed_settle nofun).trans (by simp)
  | replay a =>
    rw [← replay_eq_unordered]
    exact (failed_settle nofun).trans (by simp)
  | beginLoad | resize | choose | cancel | pointerDown => exact iff_of_false nofun fun h ↦ h.2
  | click | clickObject | clickEmpty | finish =>
    refine iff_of_false (fun h ↦ ?_) fun h ↦ h.2
    obtain ⟨v, -, hv⟩ := (failed_settle nofun).1 h
    cases hv
  | completeLoad | load | pointerUp | requestSave | completeSave =>
    refine iff_of_false (fun h ↦ ?_) fun h ↦ h.2
    obtain ⟨v, -, hv⟩ := (failed_outcomeOf nofun).1 h
    cases hv

end Session

namespace Cells

/-- An object without extent. -/
def stone : SceneObject R := ⟨"stone", "stone", .item, ⟨0, 0, 0⟩, 0, ⟨0, 0, 0⟩, none⟩

/-- Load a scene with the stone alone. -/
def loadStone : Operation R := .load ⟨⟨"quarry", [stone]⟩, "quarry.png", .empty, .empty⟩

/-- Replay a move of the stone to where it is. -/
def replayStone : Operation R := .replay ⟨.move, "stone", none, stone.pose⟩

/-- Nothing that can be done in a session breaks off exactly if the bounds of the world rectangle
are in order; otherwise an operation breaks off exactly if it keeps a point inside. -/
theorem breaksOff_run_iff (config : Config R) :
    ((∀ ops op, ¬((start config).run ops).BreaksOff op) ↔ config.world.Ordered) ∧
      ∀ ops op, ((start config).run ops).BreaksOff op ↔
        ¬config.world.Ordered ∧ ((start config).run ops).Clamps op := by
  have hiff (ops : List (Operation R)) (op : Operation R) : ((start config).run ops).BreaksOff op ↔
      ¬config.world.Ordered ∧ ((start config).run ops).Clamps op := by
    have hs : ((Session.start config).run ops).Coherent := (Session.coherent_start config).run ops
    have hconfig : ((Session.start config).run ops).config = config := Session.run_config _ ops
    rw [run_start, hs.breaksOff_cells (Session.valid_run config ops),
      hs.failed_iff_clamps (Session.chosen_run config ops), hconfig]
  refine ⟨⟨fun h ↦ ?_, fun hw ops op h ↦ ((hiff ops op).1 h).1 hw⟩, hiff⟩
  -- otherwise the stone could not be replayed to where it is
  by_contra hw
  exact h [loadStone] replayStone ((hiff _ _).2 ⟨hw, rfl, ⟨stone, rfl⟩, nofun⟩)

/-- The bounds of the world rectangle are the wrong way round, and the pea is replayed to where it
is: there is no answer. -/
theorem breaksOff_in_place :
    ((start ⟨⟨1, 0, 0, 1⟩, 50, 5⟩).run [Kitchen.loadPea]).BreaksOff
      (.replay ⟨.move, "pea", none, Kitchen.pea.pose⟩) :=
  ⟨_, rfl, .inl rfl⟩

end Cells

end Rearrangement
