import Rearrangement.Annotator

/-!
# Pictures that are broken off

A command to a canvas can fail, and then nothing more of the picture is drawn.  What has been
carried out by then are the commands before it (`BrokenOff`).  This says nothing of why a command
fails, or which one: it may be any that can fail at all.  An easel draws no other way
(`Easel.attempt_render`).

A picture is the ground with the axes, then the objects, then their markers, and it is broken off in
one of these layers (`brokenOff_append`, `brokenOff_flatMap`).

## Main statements

* `brokenOff_append`, `brokenOff_flatMap`: where pieces that are drawn one after the other can be
  broken off.
* `Canvas.attempt_draw`: a canvas carries out all commands of a picture, or the picture is broken
  off and the call fails.
* `Easel.attempt_render`: so does an easel.
* `Session.picture_eq_layers`: the layers of a picture.

A fault is not modelled in more detail than `CanvasFault` has it.  What is shown here of pictures
that are broken off is therefore true whichever command fails, and however often.
-/

namespace Rearrangement

/-- Commands that can fail. -/
def Call.canFail : Call → Bool
  | .setTransform .. | .arc .. | .fillText .. | .setProperty .. => true
  | _ => false

/-- Faults strike only where a command can fail. -/
theorem CanvasFault.canFail_of_refuses {f : CanvasFault} {call : Call} (h : f.refuses call) :
    call.canFail := by
  cases f <;> cases call <;> first | rfl | cases h

/-- What has been carried out of a list of commands if one of them fails. -/
def BrokenOff (calls done : List Call) : Prop :=
  ∃ call rest, calls = done ++ call :: rest ∧ call.canFail

/-- What a canvas carries out of a list of commands. -/
def Attempt (calls done : List Call) : Prop := done = calls ∨ BrokenOff calls done

section BrokenOff

variable {xs ys done : List Call}

/-- What cannot fail is not broken off. -/
theorem BrokenOff.exists_canFail (h : BrokenOff xs done) : ∃ call ∈ xs, call.canFail := by
  obtain ⟨call, rest, rfl, hcall⟩ := h
  exact ⟨call, by simp, hcall⟩

/-- Two pieces are broken off in the first, or the first is complete and the second is broken
off. -/
theorem brokenOff_append : BrokenOff (xs ++ ys) done ↔
    BrokenOff xs done ∨ ∃ later, done = xs ++ later ∧ BrokenOff ys later := by
  constructor
  · rintro ⟨call, rest, hsplit, hcall⟩
    obtain ⟨later, rfl, rfl⟩ | ⟨earlier, rfl, hys⟩ := List.append_eq_append_iff.1 hsplit
    · exact .inr ⟨later, rfl, call, rest, rfl, hcall⟩
    · cases earlier with
      | nil => exact .inr ⟨[], by simp, call, rest, hys.symm, hcall⟩
      | cons x earlier =>
        obtain ⟨rfl, -⟩ := List.cons.inj hys
        exact .inl ⟨call, earlier, rfl, hcall⟩
  · rintro (⟨call, rest, rfl, hcall⟩ | ⟨later, rfl, call, rest, rfl, hcall⟩)
    · exact ⟨call, rest ++ ys, by simp, hcall⟩
    · exact ⟨call, rest, by simp, hcall⟩

/-- Drawing one thing after the other is broken off in one of them. -/
theorem brokenOff_flatMap {α : Type} {l : List α} {f : α → List Call} :
    BrokenOff (l.flatMap f) done ↔ ∃ before a after later, l = before ++ a :: after ∧
      done = before.flatMap f ++ later ∧ BrokenOff (f a) later := by
  induction l generalizing done with
  | nil => simp [BrokenOff]
  | cons x l ih =>
    rw [List.flatMap_cons, brokenOff_append]
    constructor
    · rintro (h | ⟨_, rfl, h⟩)
      · exact ⟨[], x, l, done, rfl, rfl, h⟩
      · obtain ⟨before, a, after, later, rfl, rfl, hlater⟩ := ih.1 h
        exact ⟨x :: before, a, after, later, rfl, by simp, hlater⟩
    · rintro ⟨before, a, after, later, hl, rfl, h⟩
      cases before with
      | nil =>
        obtain ⟨rfl, rfl⟩ := List.cons.inj hl
        exact .inl h
      | cons y before =>
        obtain ⟨rfl, rfl⟩ := List.cons.inj hl
        exact .inr ⟨_, by simp, ih.2 ⟨before, a, after, later, rfl, rfl, h⟩⟩

end BrokenOff

/-! ## Drawing -/

/-- A fault breaks a picture off at the first command that it strikes. -/
theorem CanvasFault.brokenOff_takeWhile {f : CanvasFault} {calls : List Call}
    (h : calls.any f.refuses) :
    BrokenOff calls (calls.takeWhile fun call ↦ !f.refuses call) := by
  induction calls with
  | nil => cases h
  | cons call calls ih =>
    cases hcall : f.refuses call with
    | true => exact ⟨call, calls, by simp [hcall], canFail_of_refuses hcall⟩
    | false =>
      rw [List.any_cons, hcall, Bool.false_or] at h
      obtain ⟨call', rest, hrest, hfail⟩ := ih h
      exact ⟨call', rest, by simp [hcall, ← hrest], hfail⟩

/-- What is broken off is not complete. -/
theorem BrokenOff.ne {calls done : List Call} (h : BrokenOff calls done) : done ≠ calls := by
  rintro rfl
  obtain ⟨call, rest, h, -⟩ := h
  simpa using congrArg List.length h

/-- A picture is drawn to its end, or broken off with an error. -/
theorem Canvas.attempt_draw (c : Canvas) (call : Call) (calls : List Call) (hcall : call.canFail) :
    (c.draw (call :: calls)).2.1 = call :: calls ∧ (c.draw (call :: calls)).2.2 = .ok () ∨
      BrokenOff (call :: calls) (c.draw (call :: calls)).2.1 ∧
        (c.draw (call :: calls)).2.2 ≠ .ok () := by
  unfold draw
  split
  next => exact .inr ⟨⟨call, calls, rfl, hcall⟩, nofun⟩
  next =>
    split
    next f hfailure =>
      obtain ⟨hfault, hany⟩ := Option.filter_eq_some_iff.1 hfailure
      refine .inr ⟨?_, nofun⟩
      rw [carriedOut, hfault]
      exact CanvasFault.brokenOff_takeWhile hany
    next => exact .inl ⟨rfl, rfl⟩

/-- The commands that an easel gives are all of the picture, or it is broken off with an error. -/
theorem Easel.attempt_render (e : Easel) :
    Attempt (e.session.picture e.pixelRatio) e.render.2.1 ∧
      (e.render.2.2 = .ok () ↔ e.render.2.1 = e.session.picture e.pixelRatio) := by
  obtain ⟨hcalls, hresult⟩ | ⟨hbroken, hresult⟩ :=
    e.canvas.attempt_draw (.setTransform e.pixelRatio 0 0 e.pixelRatio 0 0) _ rfl
  · exact ⟨.inl hcalls, iff_of_true hresult hcalls⟩
  · exact ⟨.inr hbroken, iff_of_false hresult hbroken.ne⟩

/-! ## Layers -/

/-- The command leaves the colour of lines alone, how opaque everything is, and what is kept. -/
def Call.keepsPen : Call → Bool
  | .setWidth _ | .setHeight _ | .strokeStyle _ | .globalAlpha _ | .save | .restore => false
  | _ => true

namespace Picture

variable (v : Viewport Float)

/-- How a picture begins, up to the colour of the axes. -/
theorem ground_eq (pixelRatio : Float) (count : Nat) : background v pixelRatio ++ axes v count =
    [.setTransform pixelRatio 0 0 pixelRatio 0 0, .clearRect 0 0 v.width v.height,
      .strokeStyle axisColor] ++ (axes v count).tail := rfl

/-- The axes are drawn with one pen. -/
theorem keepsPen_axes (count : Nat) : (axes v count).tail.all Call.keepsPen := by
  have hleft : ∀ t ∈ v.ticks .x count, (leftTick v t).all Call.keepsPen := fun t _ ↦ rfl
  have hbottom (b : Float) : ∀ t ∈ v.ticks .y count, (bottomTick b t).all Call.keepsPen :=
    fun t _ ↦ rfl
  simp only [axes, List.cons_append, List.tail_cons, List.nil_append, List.append_assoc,
    List.all_cons, List.all_append, List.all_flatMap, List.all_eq_true.2 hleft,
    List.all_eq_true.2 (hbottom _)]
  rfl

/-- The dots leave all settings alone that other pieces rely on. -/
theorem keepsPen_markers (objects : List (SceneObject Float)) :
    (objects.flatMap (marker v)).all Call.keepsPen := by
  rw [List.all_flatMap, List.all_eq_true]
  exact fun o _ ↦ rfl

end Picture

namespace Session

/-- The axes on an empty canvas. -/
def ground (s : Session Float) (pixelRatio : Float) : List Call :=
  Picture.background s.viewport pixelRatio ++ Picture.axes s.viewport s.config.tickCount

/-- The objects that are shown. -/
def shown (s : Session Float) : List (SceneObject Float) := s.scene?.elim [] (·.objects)

/-- The outline that an object has. -/
def outline (s : Session Float) (o : SceneObject Float) : Picture.Outline :=
  Picture.outline o.id s.phase.target s.phase.reference

/-- A picture is the ground, the objects and the dots, in this order. -/
theorem picture_eq_layers (s : Session Float) (pixelRatio : Float) :
    s.picture pixelRatio = s.ground pixelRatio ++
      s.shown.flatMap (fun o ↦ Picture.object s.viewport o (s.outline o)) ++
        s.shown.flatMap (Picture.marker s.viewport) := by
  unfold picture shown
  cases s.scene? with
  | none => simp [ground]
  | some scene => simp [ground, Picture.objects, outline]

end Session

end Rearrangement
