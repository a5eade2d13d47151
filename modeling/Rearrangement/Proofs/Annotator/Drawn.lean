import Rearrangement.Proofs.Annotator.Smooth
import Rearrangement.Proofs.Session.Report

/-!
# What the canvas shows

An annotator draws what its session reports, and a new scene without being told.  As long as the
canvas fails no call, each call therefore either draws the picture of the session or leaves both
the canvas and that picture as they are (`updates_perform`), and once anything has been drawn, the
canvas shows the session as it is (`drawn_run`).

## Main statements

* `updates_perform`: a call that the canvas does not fail draws the picture of the session, or
  changes neither the picture nor what is drawn.
* `updates_run`: so does a run of such calls.
* `frame_of_loads`: another scene is drawn in the call that shows it.
* `drawn_run`: what follows for every run, with what each operation reports on the way.

That what changes is reported is a fact about sessions, `Session.tells_perform`, and is not shown
again here: `updates_withSession` and `updates_follow` only say that what is reported is drawn and
that what is not reported has not changed.  The exception is a new scene, which the annotator draws
without an effect that asks for it (`frame_completeLoad`).
-/

namespace Rearrangement

/-! ## Drawing -/

/-- The order of effects does not matter for drawing. -/
theorem EffectSummary.render_foldl {R : Type} (es : List (Effect R)) (s : EffectSummary) :
    (es.foldl add s).render ↔ s.render ∨ .renderNeeded ∈ es := by
  induction es generalizing s with
  | nil => simp
  | cons e es ih =>
    rw [List.foldl_cons, ih, List.mem_cons]
    cases e <;> simp [add]

/-- Effects ask for drawing just if one of them does. -/
theorem EffectSummary.render_ofEffects {R : Type} {es : List (Effect R)} :
    (ofEffects es).render ↔ .renderNeeded ∈ es := by
  rw [ofEffects, render_foldl]
  simp [nothing]

namespace Canvas

variable {c : Canvas} {picture : List Call}

/-- A picture that is drawn without a fault is what the canvas shows. -/
theorem frame_draw (h : (c.draw picture).2.2 = .ok ()) :
    (c.draw picture).1.frame = some picture := by
  unfold draw at h ⊢
  split at h
  next => cases h
  next =>
    split at h
    next => cases h
    next => rfl

theorem frame_setCursor (c : Canvas) (name : String) : (c.setCursor name).1.frame = c.frame := by
  unfold setCursor
  dsimp only
  split <;> rfl

end Canvas

namespace Easel

variable {e : Easel} {es : List (Effect Float)}

/-- What the canvas ought to show. -/
def picture (e : Easel) : List Call := e.session.picture e.pixelRatio

theorem frame_render {changed flag : Bool}
    (h : e.render.2.2.map (fun _ ↦ flag) = .ok changed) :
    e.render.1.canvas.frame = some e.picture := by
  change (e.canvas.draw e.picture).2.2.map _ = _ at h
  refine Canvas.frame_draw ?_
  cases hdraw : (e.canvas.draw e.picture).2.2 with
  | error f =>
    rw [hdraw] at h
    cases h
  | ok => exact hdraw

theorem frame_setCursor (e : Easel) (name : String) :
    (e.setCursor name).1.canvas.frame = e.canvas.frame := Canvas.frame_setCursor _ name

/-- To do what effects ask for does not change what ought to be shown. -/
@[simp] theorem picture_dispatch (e : Easel) (es : List (Effect Float)) :
    (e.dispatch es).1.picture = e.picture := by
  unfold dispatch
  generalize EffectSummary.ofEffects es = summary
  obtain ⟨render, cursor, changed⟩ := summary
  cases cursor with
  | none => cases render <;> rfl
  | some name =>
    dsimp only
    split
    next => rfl
    next => cases render <;> rfl

/-- If the canvas does not fail, effects are followed by drawing just if they ask for it. -/
theorem frame_dispatch {changed : Bool} (h : (e.dispatch es).2.2 = .ok changed) :
    (e.dispatch es).1.canvas.frame =
      if (EffectSummary.ofEffects es).render then some e.picture else e.canvas.frame := by
  unfold dispatch at h ⊢
  generalize EffectSummary.ofEffects es = summary at h ⊢
  obtain ⟨render, cursor, changed'⟩ := summary
  cases cursor with
  | none =>
    cases render with
    | false => rfl
    | true => exact frame_render h
  | some name =>
    dsimp only at h ⊢
    split at h
    next => cases h
    next hcursor =>
      cases render with
      | false => exact frame_setCursor e name
      | true => exact frame_render h

end Easel

namespace Annotator

variable {a a' a'' : Annotator} {i : Input}

/-- The last picture that was drawn. -/
def frame (a : Annotator) : Option (List Call) := a.easel.canvas.frame

def picture (a : Annotator) : List Call := a.easel.picture

/-- From `a` to `a'` the canvas keeps up with the session. -/
def Updates (a a' : Annotator) : Prop :=
  a'.frame = some a'.picture ∨ (a'.frame = a.frame ∧ a'.picture = a.picture)

theorem Updates.refl (a : Annotator) : a.Updates a := .inr ⟨rfl, rfl⟩

theorem Updates.trans (h : a.Updates a') (h' : a'.Updates a'') : a.Updates a'' := by
  rcases h' with hdrawn | ⟨hframe, hpicture⟩
  · exact .inl hdrawn
  · rw [Updates, hframe, hpicture]
    exact h

end Annotator

/-- A session that looks the same and is configured the same has the same picture. -/
theorem Session.picture_eq {s s' : Session Float} (hview : s'.view = s.view)
    (hconfig : s'.config = s.config) (pixelRatio : Float) :
    s'.picture pixelRatio = s.picture pixelRatio := by
  obtain ⟨hscene, hviewport, htarget, hreference⟩ := View.mk.inj hview
  unfold picture
  rw [hscene, hviewport, htarget, hreference, hconfig]

namespace Annotator

variable {a : Annotator}

/-- The picture depends on the view of the session and its configuration alone. -/
theorem picture_withSession {s : Session Float} (hview : s.view = a.session.view)
    (hconfig : s.config = a.session.config) : (a.withSession s).picture = a.picture :=
  Session.picture_eq hview hconfig a.easel.pixelRatio

/-- As long as the view stays, nothing has to be drawn. -/
theorem updates_withSession {s : Session Float} (hview : s.view = a.session.view)
    (hconfig : s.config = a.session.config) : a.Updates (a.withSession s) :=
  .inr ⟨rfl, picture_withSession hview hconfig⟩

/-- What is reported is drawn. -/
theorem updates_follow (op : Operation Float) {s : Session Float} {es : List (Effect Float)}
    (hop : a.session.perform op = (s, .effects es)) (h : (a.follow s es).2.carriedOut) :
    a.Updates (a.follow s es).1 := by
  have hreports := a.session.tells_perform op
  have hconfig := (a.session.makes_perform op).config
  rw [hop] at hreports hconfig
  obtain ⟨changed, hok⟩ := Reply.exists_ok_of_carriedOut h
  have hpicture : (a.follow s es).1.picture = (a.withSession s).picture :=
    Easel.picture_dispatch (a.withSession s).easel es
  have hframe : (a.follow s es).1.frame =
      if (EffectSummary.ofEffects es).render then some (a.withSession s).picture else a.frame :=
    Easel.frame_dispatch hok
  rw [Updates, hframe, hpicture]
  split
  next => exact .inl rfl
  next hsilent =>
    refine .inr ⟨rfl, picture_withSession ?_ hconfig⟩
    by_contra hview
    exact hsilent (EffectSummary.render_ofEffects.2 (hreports.drawn hview))

/-- An operation that fails changes nothing that can be seen. -/
theorem updates_of_failed {op : Operation Float} {s : Session Float} {e : SessionError}
    (hop : a.session.perform op = (s, .failed e)) : a.Updates (a.withSession s) := by
  have hview := a.session.tells_perform op
  have hconfig := (a.session.makes_perform op).config
  rw [hop] at hview hconfig
  exact updates_withSession hview hconfig

/-- A canvas is drawn as soon as it is given a size. -/
theorem updates_setViewport {width height pixelRatio : Float}
    (h : (a.setViewport width height pixelRatio).2.carriedOut) :
    a.Updates (a.setViewport width height pixelRatio).1 := by
  let b : Annotator := { a with easel := (a.easel.resize width height pixelRatio).1 }
  have hdrawn : (b.dispatch [.renderNeeded]).2.carriedOut :=
    (Reply.carriedOut_map (fun _ ↦ ()) (b.dispatch [.renderNeeded]).2).symm.trans h
  obtain ⟨changed, hok⟩ : ∃ changed, (b.easel.dispatch [.renderNeeded]).2.2 = .ok changed :=
    Reply.exists_ok_of_carriedOut hdrawn
  have hframe : (b.dispatch [.renderNeeded]).1.frame = some b.easel.picture :=
    Easel.frame_dispatch hok
  exact .inl (hframe.trans (congrArg some (b.easel.picture_dispatch [.renderNeeded]).symm))

/-- Only an answer that shows another scene changes what can be seen. -/
theorem updates_deliver {ticket : LoadTicket}
    {answer : Except CollaboratorError (SceneBundle Float)}
    (h : (a.session.deliver ticket answer).2 ≠ .ok .loaded) :
    a.Updates (a.withSession (a.session.deliver ticket answer).1) := by
  have htells := a.session.tells_deliver ticket answer
  have hconfig := (a.session.makes_perform (.completeLoad ticket answer)).config
  refine updates_withSession ?_ hconfig
  generalize (a.session.deliver ticket answer).2 = result at h htells
  cases result with
  | error e => exact htells
  | ok outcome =>
    cases outcome with
    | superseded => exact htells
    | loaded => exact absurd rfl h

/-- A scene that is shown is drawn by the annotator itself, without an effect that asks for it. -/
theorem frame_completeLoad {ticket : LoadTicket} {body : String}
    (hloaded : (a.session.deliver ticket (bundleOf body)).2 = .ok .loaded)
    (h : (a.completeLoad ticket body).2.carriedOut) :
    (a.completeLoad ticket body).1.frame = some (a.completeLoad ticket body).1.picture := by
  unfold completeLoad at h ⊢
  dsimp only at h ⊢
  rw [hloaded] at h ⊢
  have hdrawn := (Reply.carriedOut_map (fun _ ↦ true) ⟨_, Except.mapError _ _⟩).symm.trans h
  obtain ⟨⟨⟩, hok⟩ := Reply.exists_ok_of_carriedOut hdrawn
  exact Easel.frame_render (congrArg (Except.map fun _ ↦ true) hok)

/-- Whatever comes of an answer to a request for a scene, the canvas keeps up with it. -/
theorem updates_completeLoad {ticket : LoadTicket} {body : String}
    (h : (a.completeLoad ticket body).2.carriedOut) :
    a.Updates (a.completeLoad ticket body).1 := by
  by_cases hloaded : (a.session.deliver ticket (bundleOf body)).2 = .ok .loaded
  · exact .inl (frame_completeLoad hloaded h)
  · unfold completeLoad
    dsimp only
    split
    next => exact updates_deliver hloaded
    next => exact updates_deliver hloaded
    next hresult => exact absurd hresult hloaded

/-- A provider that refuses brings no scene. -/
theorem deliver_error_ne_loaded (s : Session Float) (ticket : LoadTicket) (e : CollaboratorError) :
    (s.deliver ticket (.error e)).2 ≠ .ok .loaded := by
  intro h
  have hload := s.loads_perform_eq_false (.completeLoad ticket (.error e)) rfl
  change (Session.outcomeOf _ _ (s.deliver ticket (.error e)).2).loads = false at hload
  rw [h] at hload
  cases hload

/-- If the canvas does not fail the call, it keeps up with the session. -/
theorem updates_perform (a : Annotator) (i : Input) (h : (a.perform i).2.carriedOut) :
    a.Updates (a.perform i).1 := by
  cases hi : i.isInteraction with
  | true =>
    have hworks := a.works_perform hi
    generalize i.operation? = op?, a.perform i = r at hworks h ⊢
    cases hworks with
    | follows hop =>
      rw [Reply.carriedOut_map] at h
      exact updates_follow _ hop h
    | fails hop => exact updates_of_failed hop
    | unknown name => exact .refl a
  | false =>
    cases i with
    | fault fault => exact .inr ⟨rfl, rfl⟩
    | setViewport width height pixelRatio =>
      rw [perform, Reply.carriedOut_map] at h
      exact updates_setViewport h
    | beginLoad id => exact updates_withSession rfl rfl
    | completeLoad ticket body =>
      rw [perform, Reply.carriedOut_map] at h
      exact updates_completeLoad h
    | failLoad ticket status text => exact updates_deliver (deliver_error_ne_loaded _ _ _)
    | beginSave =>
      change a.Updates a.beginSave.1
      unfold beginSave
      split
      next => exact .inr ⟨rfl, rfl⟩
      next => exact .refl a
    | completeSave status text =>
      change a.Updates (a.completeSave status text).1
      unfold completeSave
      split
      next => exact .refl a
      next => exact .inr ⟨rfl, rfl⟩
    | chooseAction | pointerDown | pointerMove | pointerUp | finish | cancel => cases hi

/-- The canvas keeps up with the session through any calls that it does not fail. -/
theorem updates_run {inputs : List Input}
    (h : a.Along (fun a i ↦ (a.perform i).2.carriedOut) inputs) : a.Updates (a.run inputs) := by
  induction inputs generalizing a with
  | nil => exact .refl a
  | cons i inputs ih => exact (updates_perform a i h.1).trans (ih h.2)

/-- Another scene is drawn as soon as it is shown. -/
theorem frame_of_loads (hloads : a.loads i) (h : (a.perform i).2.carriedOut) :
    (a.perform i).1.frame = some (a.perform i).1.picture := by
  by_cases hi : ∃ ticket body, i = .completeLoad ticket body
  · obtain ⟨ticket, body, rfl⟩ := hi
    refine frame_completeLoad ?_ (by rwa [perform, Reply.carriedOut_map] at h)
    change (Session.outcomeOf _ _ (a.session.deliver ticket (bundleOf body)).2).loads at hloads
    generalize (a.session.deliver ticket (bundleOf body)).2 = result at hloads ⊢
    rcases result with _ | _ | _
    · cases hloads
    · rfl
    · cases hloads
  · cases (loads_eq_false fun ticket body h ↦ hi ⟨ticket, body, h⟩).symm.trans hloads

/-- What can be relied on about the canvas after some calls. -/
structure Drawn (before : List Input) : Prop where
  /-- Once anything has been drawn, and as long as the canvas fails no call, what has been drawn
  last is the picture of the session as it is. -/
  fresh : ∀ later, start.Along (fun a i ↦ (a.perform i).2.carriedOut) (before ++ later) →
    (start.run before).frame.isSome →
    (start.run (before ++ later)).frame = some (start.run (before ++ later)).picture
  /-- Another scene is drawn as soon as it is shown. -/
  loaded : ∀ i, (start.run before).loads i → ((start.run before).perform i).2.carriedOut →
    ((start.run before).perform i).1.frame = some ((start.run before).perform i).1.picture

/-- The colours in which lines are drawn, in the order in which they are set. -/
def lineColors (picture : List Call) : List String :=
  picture.filterMap fun | .strokeStyle color => some color | _ => none

/-- Whatever has been done, all that changes of what can be seen is reported, and drawn. -/
theorem drawn_run {R : Type} [Scalar R] (config : Config R) (ops : List (Operation R))
    (before : List Input) : ((Cells.start config).run ops).Reported ∧ Drawn before := by
  refine ⟨Cells.reported_run config ops, fun later h hdrawn ↦ ?_, fun i ↦ frame_of_loads⟩
  obtain ⟨hbefore, hlater⟩ := h.of_append
  rw [run_append]
  rcases updates_run hlater with hnow | ⟨hframe, hpicture⟩
  · exact hnow
  · rw [hframe, hpicture]
    rcases updates_run hbefore with hthen | ⟨hnone, -⟩
    · exact hthen
    · rw [hnone] at hdrawn
      cases hdrawn

/-- The tray is brought and drawn.  When the pea is chosen it is drawn anew, in another colour. -/
theorem drawn_run_chosen :
    let after := start.run (bringTray ++ takePea)
    start.Along (fun a i ↦ (a.perform i).2.carriedOut) (bringTray ++ takePea) ∧
      (start.run bringTray).frame.isSome ∧
        lineColors (start.run bringTray).picture = [Picture.axisColor, Picture.outlineColor] ∧
          lineColors after.picture = [Picture.axisColor, Picture.targetColor] ∧
            after.frame = some after.picture := by
  intro after
  have hdone : start.Along (fun a i ↦ (a.perform i).2.carriedOut) (bringTray ++ takePea) :=
    along_carriedOut rfl (by simp [bringTray, takePea])
  have hsized : (start.run [.setViewport 300 200 1]).frame.isSome := by decide +kernel
  have hbrought : (start.run bringTray).frame = some (start.run bringTray).picture :=
    (drawn_run (Config.standard (R := Float)) [] [.setViewport 300 200 1]).2.fresh bringTray.tail
      hdone.of_append.1 hsized
  have hshown : (start.run bringTray).frame.isSome := by rw [hbrought]; rfl
  -- A line's colour depends on no number, and so not on how many device pixels there are.
  have hblack (ratio : Float) : lineColors (served.picture ratio) =
      [Picture.axisColor, Picture.outlineColor] := rfl
  have hred (ratio : Float) : lineColors (holding.picture ratio) =
      [Picture.axisColor, Picture.targetColor] := rfl
  have hpicture {a : Annotator} {s : Session Float} (h : a.session = s) :
      lineColors a.picture = lineColors (s.picture a.easel.pixelRatio) := by subst h; rfl
  exact ⟨hdone, hshown, (hpicture session_bringTray).trans (hblack _),
    (hpicture session_takePea).trans (hred _),
    (drawn_run (Config.standard (R := Float)) [] bringTray).2.fresh takePea hdone hshown⟩

end Annotator

end Rearrangement
