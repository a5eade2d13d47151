import Rearrangement.Proofs.Annotator.Saves
import Rearrangement.Proofs.Binary64.Dot
import Rearrangement.Proofs.Session.Rollback
import Rearrangement.Proofs.Wire

/-!
# Canvases that are in order

Nothing that an annotator does breaks its canvas.  As long as nothing is wrong with it, each call
leaves it so and is carried out (`smooth_perform`), and so are all calls of a run in which nothing
goes wrong from outside (`along_carriedOut`).

## Main statements

* `smooth_perform`: a call on a canvas that is in order is carried out and leaves it so.
* `along_carriedOut`: so are all calls of a run.
* `session_bringTray`, `session_takePea`: two runs that other modules go on from, with the sessions
  that they lead to.

What is carried out is what the statements about the cursor and about the picture ask for, so this
is where their hypotheses are shown to hold.  The two runs are on a tray with a single pea.  It has
no extent and is therefore met by the pointer everywhere, so that no circular function has to be
evaluated to follow them.
-/

namespace Rearrangement

/-! ## Replies -/

/-- The canvas has not failed the call. -/
def Reply.carriedOut {α : Type} (r : Reply α) : Bool :=
  match r.result with
  | .error (.canvas _) => false
  | _ => true

@[simp] theorem Reply.carriedOut_map {α β : Type} (f : α → β) (r : Reply α) :
    (r.map f).carriedOut = r.carriedOut := by
  obtain ⟨calls, result⟩ := r
  rcases result with (_ | _ | _) | _ <;> rfl

/-- A call that the canvas has not failed has got what it wanted of the canvas. -/
theorem Reply.exists_ok_of_carriedOut {α : Type} {result : Except CanvasFault α}
    {calls : List Call} (h : (Reply.mk calls (result.mapError .canvas)).carriedOut) :
    ∃ a, result = .ok a := by
  cases result with
  | error f => cases h
  | ok a => exact ⟨a, rfl⟩

/-! ## Canvases -/

namespace Canvas

variable {c : Canvas}

/-- A canvas that is in order shows the whole picture. -/
theorem draw_eq (h : c.fault = none) (picture : List Call) :
    c.draw picture = ({ c with frame := some picture }, picture, .ok ()) := by
  unfold draw failure?
  rw [h]
  rfl

theorem setCursor_eq (h : c.fault = none) (name : String) :
    c.setCursor name =
      ({ c with cursor := some name }, [.setProperty "cursor" name], .ok ()) := by
  unfold setCursor failure?
  rw [h]
  rfl

end Canvas

namespace Easel

variable {e : Easel}

theorem render_intact (h : e.canvas.fault = none) :
    e.render.1.canvas.fault = none ∧ e.render.2.2 = .ok () := by
  unfold render
  rw [Canvas.draw_eq h]
  exact ⟨h, rfl⟩

theorem setCursor_intact (h : e.canvas.fault = none) (name : String) :
    (e.setCursor name).1.canvas.fault = none ∧ (e.setCursor name).2.2 = .ok () := by
  unfold setCursor
  rw [Canvas.setCursor_eq h]
  exact ⟨h, rfl⟩

/-- Whatever effects ask for is done. -/
theorem dispatch_intact (h : e.canvas.fault = none) (es : List (Effect Float)) :
    (e.dispatch es).1.canvas.fault = none ∧ ∃ changed, (e.dispatch es).2.2 = .ok changed := by
  unfold dispatch
  generalize EffectSummary.ofEffects es = summary
  obtain ⟨render, cursor, changed⟩ := summary
  have hrender {e : Easel} (h : e.canvas.fault = none) : e.render.1.canvas.fault = none ∧
      ∃ b, (e.render.2.2.map fun _ ↦ changed) = .ok b := by
    obtain ⟨hfault, hok⟩ := render_intact h
    exact ⟨hfault, changed, by rw [hok]; rfl⟩
  cases cursor with
  | none =>
    cases render with
    | false => exact ⟨h, changed, rfl⟩
    | true => exact hrender h
  | some name =>
    obtain ⟨hfault, hok⟩ := setCursor_intact h name
    dsimp only
    rw [hok]
    cases render with
    | false => exact ⟨hfault, changed, rfl⟩
    | true => exact hrender hfault

end Easel

namespace Annotator

variable {a : Annotator} {i : Input}

/-- The annotator with a canvas of the given size, on which nothing has been drawn yet. -/
def sized (a : Annotator) (width height pixelRatio : Float) : Annotator :=
  { a with easel := (a.easel.resize width height pixelRatio).1 }

/-- A size is given without fail if the session can be drawn at it. -/
theorem carriedOut_setViewport {width height pixelRatio : Float} :
    (a.setViewport width height pixelRatio).2.carriedOut =
      ((a.sized width height pixelRatio).dispatch [.renderNeeded]).2.carriedOut :=
  Reply.carriedOut_map (fun _ ↦ ()) ((a.sized width height pixelRatio).dispatch [.renderNeeded]).2

/-- The canvas is in order and has not failed the call. -/
structure Smooth {α : Type} (r : Annotator × Reply α) : Prop where
  intact : r.1.easel.canvas.fault = none
  carriedOut : r.2.carriedOut

theorem Smooth.map {α β : Type} {r : Annotator × Reply α} (h : Smooth r) (f : α → β) :
    Smooth (r.1, r.2.map f) := ⟨h.intact, by rw [Reply.carriedOut_map]; exact h.carriedOut⟩

theorem smooth_dispatch (h : a.easel.canvas.fault = none) (es : List (Effect Float)) :
    Smooth (a.dispatch es) := by
  obtain ⟨hfault, changed, hok⟩ := Easel.dispatch_intact h es
  refine ⟨hfault, ?_⟩
  change Reply.carriedOut ⟨_, (a.easel.dispatch es).2.2.mapError _⟩ = true
  rw [hok]
  rfl

theorem smooth_follow (h : a.easel.canvas.fault = none) (s : Session Float)
    (es : List (Effect Float)) : Smooth (a.follow s es) :=
  smooth_dispatch (a := a.withSession s) h es

/-- A scene that arrives is drawn without fail, if it is shown at all. -/
theorem smooth_completeLoad (h : a.easel.canvas.fault = none) (ticket : LoadTicket)
    (body : String) : Smooth (a.completeLoad ticket body) := by
  unfold completeLoad
  dsimp only
  split
  next => exact ⟨h, rfl⟩
  next => exact ⟨h, rfl⟩
  next =>
    obtain ⟨hfault, hok⟩ := Easel.render_intact
      (e := (a.withSession (a.session.deliver ticket (bundleOf body)).1).easel) h
    refine ⟨hfault, ?_⟩
    rw [hok]
    rfl

theorem smooth_failLoad (h : a.easel.canvas.fault = none) (ticket : LoadTicket) (status : Nat)
    (text : String) : Smooth (a.failLoad ticket status text) := by
  refine ⟨h, ?_⟩
  unfold failLoad
  dsimp only
  rcases (a.session.deliver ticket (.error (.status status text))).2 with _ | _ <;> rfl

/-- A canvas that is in order is so after any call, and the call is carried out. -/
theorem smooth_perform (h : a.easel.canvas.fault = none) (hi : ∀ fault, i ≠ .fault fault) :
    Smooth (a.perform i) := by
  cases hwork : i.isInteraction with
  | true =>
    have hworks := a.works_perform hwork
    generalize i.operation? = op?, a.perform i = r at hworks ⊢
    cases hworks with
    | follows _ => exact (smooth_follow h _ _).map _
    | fails _ => exact ⟨h, rfl⟩
    | unknown name => exact ⟨h, rfl⟩
  | false =>
    cases i with
    | fault fault => exact absurd rfl (hi fault)
    | setViewport width height pixelRatio =>
      have hdrawn : Smooth ((a.sized width height pixelRatio).dispatch [.renderNeeded]) :=
        smooth_dispatch (a := a.sized width height pixelRatio) h _
      refine Smooth.map (r := a.setViewport width height pixelRatio) ⟨hdrawn.intact, ?_⟩ _
      exact carriedOut_setViewport.trans hdrawn.carriedOut
    | beginLoad => exact ⟨h, rfl⟩
    | completeLoad ticket body => exact (smooth_completeLoad h ticket body).map _
    | failLoad ticket status text => exact (smooth_failLoad h ticket status text).map _
    | beginSave =>
      refine Smooth.map (r := a.beginSave) ?_ _
      unfold beginSave
      split
      next => exact ⟨h, rfl⟩
      next => exact ⟨h, rfl⟩
    | completeSave status text =>
      refine Smooth.map (r := a.completeSave status text) ?_ _
      unfold completeSave
      split
      next => exact ⟨h, rfl⟩
      next =>
        refine ⟨h, ?_⟩
        cases saveResult status text <;> rfl
    | chooseAction | pointerDown | pointerMove | pointerUp | finish | cancel => cases hwork

/-- A canvas that is in order, and stays so, fails no call. -/
theorem along_carriedOut {inputs : List Input} (h : a.easel.canvas.fault = none)
    (hinputs : ∀ i ∈ inputs, ∀ fault, i ≠ .fault fault) :
    a.Along (fun a i ↦ (a.perform i).2.carriedOut) inputs := by
  induction inputs generalizing a with
  | nil => trivial
  | cons i inputs ih =>
    obtain ⟨hi, hinputs⟩ := List.forall_mem_cons.1 hinputs
    have hsmooth := smooth_perform h hi
    exact ⟨hsmooth.carriedOut, ih hsmooth.intact hinputs⟩

/-- What holds along a run holds along both of its parts. -/
theorem Along.of_append {P : Annotator → Input → Prop} {xs ys : List Input}
    (h : a.Along P (xs ++ ys)) : a.Along P xs ∧ (a.run xs).Along P ys := by
  induction xs generalizing a with
  | nil => exact ⟨trivial, h⟩
  | cons i xs ih => exact ⟨⟨h.1, (ih h.2).1⟩, (ih h.2).2⟩

/-- What holds along two runs, the second from where the first one ends, holds along both in a
row. -/
theorem Along.append {P : Annotator → Input → Prop} {xs ys : List Input} (h : a.Along P xs)
    (h' : (a.run xs).Along P ys) : a.Along P (xs ++ ys) := by
  induction xs generalizing a with
  | nil => exact h'
  | cons i xs ih => exact ⟨h.1, ih h.2 h'⟩

end Annotator

/-! ## The pea on the tray -/

namespace Session

/-- A release near the press is a click. -/
theorem pointerUp_eq_click {R : Type} [Scalar R] {s s' : Session R} {es : List (Effect R)}
    {start pixel : Point R} (hfree : s.phase.grip.isSome = false) (hpress : s.press = some start)
    (hslop : Scalar.hypot (pixel.x - start.x) (pixel.y - start.y) ≤ clickSlop)
    (hclick : s.release.click pixel = .ok (s', es)) : s.pointerUp pixel = (s', .ok es) := by
  unfold pointerUp
  rw [hfree, hpress]
  dsimp only
  rw [if_neg Bool.false_ne_true, if_pos hslop, hclick]

end Session

namespace Annotator

/-- A tray with nothing on it but the pea. -/
def tray : SceneBundle Float := ⟨⟨"kitchen", [Kitchen.pea]⟩, "kitchen.png", .ofList [], .empty⟩

/-- The table that the tray describes. -/
def trayTable : Table Float := ⟨⟨"kitchen", "kitchen.png", [Kitchen.pea]⟩, .ofList [], .empty⟩

/-- The session with the tray. -/
def served : Session Float :=
  { Session.start .standard with
    viewport := (Session.start (.standard (R := Float))).viewport.resize 300 200
    table := some trayTable
    latestLoad := 1 }

/-- The tray is loaded. -/
def bringTray : List Input := [.setViewport 300 200 1, .beginLoad "kitchen",
  .completeLoad ⟨1, "kitchen"⟩ tray.toJson.compact]

/-- The pea is chosen with a click, and the pointer takes hold of it. -/
def takePea : List Input :=
  [.chooseAction "MOVE", .pointerDown ⟨30, 40⟩, .pointerUp ⟨30, 40⟩, .pointerDown ⟨30, 40⟩]

/-- The session shows the tray. -/
theorem session_bringTray : (start.run bringTray).session = served := by
  have hbundle : bundleOf tray.toJson.compact = .ok tray := by
    rw [bundleOf, SceneBundle.read?_compact (by decide +kernel)]
  rw [session_run, bringTray]
  simp only [List.filterMap_cons, Input.operation?, hbundle]
  rfl

/-- The pea is chosen where the pointer is released, whatever the circular functions are, for it is
everywhere. -/
theorem pointerUp_pea {s : Session Float} (htable : s.table = some trayTable)
    (hphase : s.phase = .selectTarget .move) (hpress : s.press = some ⟨30, 40⟩) :
    s.pointerUp ⟨30, 40⟩ =
      ({ s with phase := .manipulate .move "pea" none none ⟨trayTable, none⟩, press := none },
        .ok Session.selectionEffects) := by
  have hcontains : Kitchen.pea.footprint.contains (s.viewport.toWorld ⟨30, 40⟩) = true :=
    SceneObject.contains_footprint rfl rfl rfl rfl _
  have hhit : trayTable.scene.hit? s.viewport ⟨30, 40⟩ = some "pea" := by
    rw [Scene.hit?, Scene.topmost?, trayTable, List.filter_singleton, hcontains]
    rfl
  have hrelease : s.release = { s with press := none } := by
    unfold Session.release
    rw [hphase]
  have hfree : s.phase.grip.isSome = false := by
    rw [hphase]
    rfl
  refine Session.pointerUp_eq_click hfree hpress (by decide +kernel) ?_
  rw [hrelease, Session.click, Session.hit?, Session.loaded, htable]
  change Except.bind (Except.ok (trayTable.scene.hit? s.viewport ⟨30, 40⟩)) _ = _
  rw [hhit]
  obtain ⟨config, viewport, table, phase, trajectory, latestLoad, press⟩ := s
  cases htable
  cases hphase
  rfl

/-- The session in which the pointer holds the pea. -/
def holding : Session Float :=
  { served with
    phase := .manipulate .move "pea" none (some ⟨⟨30, 40⟩, Kitchen.pea.position.flat⟩)
      ⟨trayTable, none⟩
    press := some ⟨30, 40⟩ }

/-- The session in which the pea has been chosen and taken. -/
theorem session_takePea : (start.run (bringTray ++ takePea)).session = holding := by
  let pressed : Session Float :=
    { served with phase := .selectTarget .move, press := some ⟨30, 40⟩ }
  have hpress : served.run [.choose .move, .pointerDown ⟨30, 40⟩] = pressed := rfl
  have hup := pointerUp_pea (s := pressed) rfl rfl rfl
  have hrun : served.run ([.choose .move, .pointerDown ⟨30, 40⟩] ++ [.pointerUp ⟨30, 40⟩]) =
      { served with phase := .manipulate .move "pea" none none ⟨trayTable, none⟩ } := by
    rw [Session.run_append, hpress]
    change (pressed.pointerUp ⟨30, 40⟩).1 = _
    rw [hup]
    rfl
  have htake := Session.run_pointerDown served _ [] ⟨30, 40⟩ (congrArg Session.phase hrun)
    (by rw [hrun]; rfl : _ = some Kitchen.pea) rfl rfl rfl rfl rfl
  have hops : takePea.filterMap (·.operation?) =
      [.choose .move, .pointerDown ⟨30, 40⟩] ++ [.pointerUp ⟨30, 40⟩] ++
        [.pointerDown ⟨30, 40⟩] := rfl
  rw [run_append, session_run, session_bringTray, hops, htake, hrun]
  rfl

end Annotator

end Rearrangement
