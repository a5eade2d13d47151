import Mathlib.Tactic.Tauto
import Rearrangement.Proofs.Annotator.Drawn

/-!
# The cursor of a drag

When the pointer takes hold of an object the session asks for a cursor that shows it, and when the
pointer is released for the default one.  A drag can also be over because the action is recorded or
given up, or because another action is chosen or another scene shown, and none of these asks for
anything (`Drops`).  So while an object is held the cursor always shows it, but it goes on doing so
after an object has been dropped, until the next one that is taken is released (`cursor_run`).

`Handles` says once what a call of an annotator can do to a drag and to the cursor, as long as the
canvas fails no call.  What runs do follows from it.

## Main statements

* `handles_perform`: every call of an annotator handles the drag in one of the ways that `Handles`
  lists.
* `telling_prefixes_iff`: the cursor tells what is held after each call of a run exactly if no call
  drops an object.
* `cursor_run`: what the cursor shows after any run, in terms of what has been dropped in it.
* `grabbing_cancel`: a run after which the cursor shows an object as held that is not.

The canvas is assumed not to fail a call, since a call that is broken off need not have come to the
cursor.  Whether an object is held is a matter of the session alone (`Session.dragging`), so the
first section is about sessions and the canvas comes in only with `cursor_dispatch`.
-/

namespace Rearrangement

/-! ## Sessions -/

namespace Session

variable {R : Type}

/-- The pointer holds the chosen object. -/
def dragging (s : Session R) : Bool := s.phase.grip.isSome

/-- Nothing is held after the operation, and no cursor is asked for. -/
structure Loose (s : Session R) (es : List (Effect R)) : Prop where
  dragging : s.dragging = false
  silent : (EffectSummary.ofEffects es).cursor = none

variable {s s' : Session R} {es : List (Effect R)} {t : Table R} {kind : ActionKind}
  {target id : ObjectId} {before : Table R} {pixel : Point R}

/-- To record the action lets go of its object without a word about the cursor. -/
theorem loose_finish (h : s.finish = .ok (s', es)) : s'.Loose es := by
  obtain ⟨a, -, rfl, rfl⟩ := finish_cases h
  exact ⟨rfl, rfl⟩

/-- So does giving the action up. -/
theorem loose_cancel (s : Session R) : s.cancel.1.Loose s.cancel.2 := by
  unfold cancel
  split
  next => exact ⟨rfl, rfl⟩
  next =>
    refine ⟨rfl, ?_⟩
    dsimp only
    split <;> rfl

/-- So does the choice of another kind of action. -/
theorem loose_choose (s : Session R) (kind : ActionKind) :
    (s.choose kind).1.Loose (s.choose kind).2 := ⟨rfl, rfl⟩

/-- A click on nothing takes hold of nothing. -/
theorem loose_clickEmpty (hs : s.dragging = false) (h : s.clickEmpty = .ok (s', es)) :
    s'.Loose es := by
  obtain h | ⟨-, ⟨rfl, rfl⟩ | ⟨_, -, rfl, rfl⟩⟩ := clickEmpty_cases h
  · exact loose_finish h
  · exact ⟨hs, rfl⟩
  · exact ⟨rfl, rfl⟩

/-- What is held is let go when the pointer is released. -/
theorem dragging_release (s : Session R) : s.release.dragging = false := by
  rw [dragging, grip_release]
  rfl

variable [Scalar R]

theorem loose_selectTarget (h : s.selectTarget t kind id = .ok (s', es)) : s'.Loose es := by
  obtain ⟨-, h⟩ | ⟨rfl, ⟨-, rfl⟩ | ⟨-, -, rfl⟩⟩ := selectTarget_cases h
  · obtain ⟨_, _, _, -, -, rfl, rfl⟩ := toggleLid_cases h
    exact ⟨rfl, rfl⟩
  · exact ⟨rfl, rfl⟩
  · exact ⟨rfl, rfl⟩

theorem loose_selectReference (h : s.selectReference t kind target before id = .ok (s', es)) :
    s'.Loose es := by
  obtain ⟨rfl, -, _, _, -, -, -, ⟨-, rfl⟩ | ⟨-, _, -, rfl⟩⟩ := selectReference_cases h
  · exact ⟨rfl, rfl⟩
  · exact ⟨rfl, rfl⟩

/-- A click on an object may choose it, but never takes hold of it. -/
theorem loose_clickObject (hs : s.dragging = false) (h : s.clickObject id = .ok (s', es)) :
    s'.Loose es := by
  obtain ⟨rfl, rfl⟩ | ⟨t, x, -, -, ⟨kind, -, h⟩ | ⟨kind, target, before, -, h⟩⟩ :=
    clickObject_cases h
  · exact ⟨hs, rfl⟩
  · exact loose_selectTarget h
  · exact loose_selectReference h

theorem loose_click (hs : s.dragging = false) (h : s.click pixel = .ok (s', es)) :
    s'.Loose es := by
  obtain h | ⟨id, h⟩ := click_cases h
  · exact loose_clickEmpty hs h
  · exact loose_clickObject hs h

/-- Whatever was held, the pointer lets go of it. -/
theorem dragging_pointerUp (s : Session R) (pixel : Point R) :
    (s.pointerUp pixel).1.dragging = false := by
  obtain ⟨es, -, h⟩ | ⟨e, h⟩ | ⟨-, s', es, hclick, h⟩ := s.pointerUp_cases pixel
  all_goals rw [h]
  · exact s.dragging_release
  · exact s.dragging_release
  · exact (loose_click s.dragging_release hclick).dragging

/-- The release of a held object asks for the default cursor, and for drawing. -/
theorem pointerUp_of_dragging (h : s.dragging) (pixel : Point R) :
    s.pointerUp pixel = (s.release, .ok [.setCursor "default", .renderNeeded]) := if_pos h

/-- Released with nothing held, the pointer asks for no cursor. -/
theorem silent_pointerUp (hs : s.dragging = false) (h : s.pointerUp pixel = (s', .ok es)) :
    (EffectSummary.ofEffects es).cursor = none := by
  unfold pointerUp at h
  rw [show s.phase.grip.isSome = false from hs] at h
  split at h
  next hheld => cases hheld
  next =>
    split at h
    next =>
      split at h
      next =>
        dsimp only at h
        split at h
        next hclick =>
          obtain rfl := Except.ok.inj (Prod.mk.inj h).2
          exact (loose_click s.dragging_release hclick).silent
        next => cases (Prod.mk.inj h).2
      next =>
        obtain rfl := Except.ok.inj (Prod.mk.inj h).2
        rfl
    next =>
      obtain rfl := Except.ok.inj (Prod.mk.inj h).2
      rfl

omit [Scalar R] in
/-- Only an answer that shows another scene makes a difference to what is held. -/
theorem deliver_cases (s : Session R) (ticket : LoadTicket)
    (answer : Except CollaboratorError (SceneBundle R)) :
    (s.deliver ticket answer).1 = s ∧ (s.deliver ticket answer).2 ≠ .ok .loaded ∨
      (s.deliver ticket answer).1.dragging = false ∧
        (s.deliver ticket answer).2 = .ok .loaded := by
  unfold deliver
  cases hload : s.completeLoad ticket answer with
  | error e => exact .inl ⟨rfl, nofun⟩
  | ok r =>
    obtain ⟨s', o⟩ := r
    obtain ⟨rfl, rfl⟩ | ⟨b, t, -, -, rfl, rfl⟩ := completeLoad_cases hload
    · exact .inl ⟨rfl, nofun⟩
    · exact .inr ⟨rfl, rfl⟩

end Session

/-! ## The canvas -/

namespace Canvas

variable {c : Canvas} {name : String}

theorem cursor_draw (c : Canvas) (picture : List Call) : (c.draw picture).1.cursor = c.cursor := by
  unfold draw
  split
  next => rfl
  next => split <;> rfl

theorem cursor_setCursor (h : (c.setCursor name).2.2 = .ok ()) :
    (c.setCursor name).1.cursor = some name := by
  unfold setCursor at h ⊢
  dsimp only at h ⊢
  split at h
  next => cases h
  next => rfl

end Canvas

namespace Easel

variable {e : Easel} {es : List (Effect Float)}

theorem cursor_render (e : Easel) : e.render.1.canvas.cursor = e.canvas.cursor :=
  e.canvas.cursor_draw _

/-- If the canvas does not fail, it has the cursor that effects ask for. -/
theorem cursor_dispatch {changed : Bool} (h : (e.dispatch es).2.2 = .ok changed) :
    (e.dispatch es).1.canvas.cursor = (EffectSummary.ofEffects es).cursor.or e.canvas.cursor := by
  unfold dispatch at h ⊢
  generalize EffectSummary.ofEffects es = summary at h ⊢
  obtain ⟨render, cursor, changed'⟩ := summary
  cases cursor with
  | none =>
    cases render with
    | false => rfl
    | true => exact e.cursor_render
  | some name =>
    dsimp only at h ⊢
    split at h
    next => cases h
    next hcursor =>
      have hset : (e.setCursor name).1.canvas.cursor = some name := Canvas.cursor_setCursor hcursor
      cases render with
      | false => exact hset
      | true => exact (cursor_render _).trans hset

end Easel

namespace Annotator

/-- The last cursor that was set. -/
def cursor (a : Annotator) : Option String := a.easel.canvas.cursor

/-- The pointer holds the chosen object. -/
def dragging (a : Annotator) : Bool := a.session.dragging

/-- The cursor tells whether an object is held. -/
def Telling (a : Annotator) : Prop := a.cursor = some "grabbing" ↔ a.dragging

/-- A drag is over with this call, and not because the pointer is released. -/
def Drops (a : Annotator) (i : Input) : Prop :=
  a.dragging ∧
    match i with
    | .finish => a.session.phase.action.isSome
    | .cancel => True
    | .chooseAction name => (ActionKind.ofName? name).isSome
    | .completeLoad _ _ => a.loads i
    | _ => False

/-- What a call can do to a drag and to the cursor. -/
inductive Handles (a : Annotator) (i : Input) (a' : Annotator) : Prop
  | steady (hdrops : ¬a.Drops i) (hheld : a'.dragging = a.dragging) (hcursor : a'.cursor = a.cursor)
  | takes (hbefore : a.dragging = false) (hheld : a'.dragging)
      (hcursor : a'.cursor = some "grabbing")
  | releases (hdrops : ¬a.Drops i) (hbefore : a.dragging) (hheld : a'.dragging = false)
      (hcursor : a'.cursor = some "default")
  | drops (hdrops : a.Drops i) (hheld : a'.dragging = false) (hcursor : a'.cursor = a.cursor)

variable {a a' : Annotator} {i : Input} {s : Session Float} {es : List (Effect Float)}

/-- Of the cursors that effects ask for the last one is shown, and without any the one from
before. -/
theorem cursor_follow (h : (a.follow s es).2.carriedOut) :
    (a.follow s es).1.cursor = (EffectSummary.ofEffects es).cursor.or a.cursor := by
  obtain ⟨changed, hok⟩ := Reply.exists_ok_of_carriedOut h
  exact Easel.cursor_dispatch hok

theorem dragging_follow (a : Annotator) (s : Session Float) (es : List (Effect Float)) :
    (a.follow s es).1.dragging = s.dragging := congrArg Session.dragging (a.session_follow s es)

/-- Where nothing is held there is nothing to drop. -/
theorem not_drops (h : a.dragging = false) : ¬a.Drops i := fun hdrops ↦ by
  cases h.symm.trans hdrops.1

/-- A drag that is over without the pointer being released has been dropped. -/
theorem handles_of_loose (hheld : a'.dragging = false) (hcursor : a'.cursor = a.cursor)
    (hdrops : a.dragging → a.Drops i) : a.Handles i a' := by
  cases hbefore : a.dragging with
  | false => exact .steady (not_drops hbefore) (hheld.trans hbefore.symm) hcursor
  | true => exact .drops (hdrops hbefore) hheld hcursor

/-- An operation that asks for no cursor and holds what was held makes no difference. -/
theorem handles_follow_steady (hheld : s.dragging = a.session.dragging)
    (hsilent : (EffectSummary.ofEffects es).cursor = none) (h : (a.follow s es).2.carriedOut)
    (hdrops : ¬a.Drops i) : a.Handles i (a.follow s es).1 := by
  refine .steady hdrops ((a.dragging_follow s es).trans hheld) ?_
  rw [cursor_follow h, hsilent]
  rfl

/-- A call that lets go of whatever is held drops it, unless nothing is held. -/
theorem handles_follow_loose (hs : s.Loose es) (h : (a.follow s es).2.carriedOut)
    (hdrops : a.dragging → a.Drops i) : a.Handles i (a.follow s es).1 := by
  refine handles_of_loose ((a.dragging_follow s es).trans hs.dragging) ?_ hdrops
  rw [cursor_follow h, hs.silent]
  rfl

theorem handles_setViewport {width height pixelRatio : Float}
    (h : (a.setViewport width height pixelRatio).2.carriedOut) :
    a.Handles (.setViewport width height pixelRatio)
      (a.setViewport width height pixelRatio).1 := by
  let b := a.sized width height pixelRatio
  have hdrawn : (b.dispatch [.renderNeeded]).2.carriedOut := carriedOut_setViewport.symm.trans h
  obtain ⟨changed, hok⟩ : ∃ changed, (b.easel.dispatch [.renderNeeded]).2.2 = .ok changed :=
    Reply.exists_ok_of_carriedOut hdrawn
  have hheld : (b.dispatch [.renderNeeded]).1.dragging = b.dragging :=
    congrArg Session.dragging (b.easel.session_dispatch [.renderNeeded])
  exact .steady And.right hheld (Easel.cursor_dispatch hok)

/-- A scene that arrives drops what is held, and only if it is shown. -/
theorem handles_completeLoad (a : Annotator) (ticket : LoadTicket) (body : String) :
    a.Handles (.completeLoad ticket body) (a.completeLoad ticket body).1 := by
  have hloads : a.loads (.completeLoad ticket body) ↔
      (a.session.deliver ticket (bundleOf body)).2 = .ok .loaded := by
    change (Session.outcomeOf _ _ (a.session.deliver ticket (bundleOf body)).2).loads = true ↔ _
    rcases (a.session.deliver ticket (bundleOf body)).2 with _ | _ | _ <;>
      simp [Session.outcomeOf, Outcome.loads]
  have hcursor : (a.completeLoad ticket body).1.cursor = a.cursor := by
    unfold completeLoad
    dsimp only
    split
    next => rfl
    next => rfl
    next => exact Easel.cursor_render _
  have hheld : (a.completeLoad ticket body).1.dragging =
      (a.session.deliver ticket (bundleOf body)).1.dragging :=
    congrArg Session.dragging (a.session_perform (.completeLoad ticket body))
  obtain ⟨hsame, hnot⟩ | ⟨hover, hloaded⟩ := a.session.deliver_cases ticket (bundleOf body)
  · rw [hsame] at hheld
    exact .steady (fun h ↦ hnot (hloads.1 h.2)) hheld hcursor
  · exact handles_of_loose (hheld.trans hover) hcursor fun hbefore ↦ ⟨hbefore, hloads.2 hloaded⟩

theorem handles_failLoad (a : Annotator) (ticket : LoadTicket) (status : Nat) (text : String) :
    a.Handles (.failLoad ticket status text) (a.failLoad ticket status text).1 := by
  obtain ⟨hsame, -⟩ | ⟨-, hloaded⟩ :=
    a.session.deliver_cases ticket (.error (.status status text))
  · exact .steady And.right (congrArg Session.dragging hsame) rfl
  · exact absurd hloaded (deliver_error_ne_loaded _ _ _)

/-- To choose a kind of action drops what is held. -/
theorem handles_chooseAction {name : String} (h : (a.chooseAction name).2.carriedOut) :
    a.Handles (.chooseAction name) (a.chooseAction name).1 := by
  unfold chooseAction at h ⊢
  split at h
  next kind hname =>
    refine handles_follow_loose (a.session.loose_choose kind) h fun hbefore ↦ ⟨hbefore, ?_⟩
    exact Option.isSome_iff_exists.2 ⟨kind, hname⟩
  next hname =>
    refine .steady (fun hdrops ↦ ?_) rfl rfl
    obtain ⟨kind, hkind⟩ := Option.isSome_iff_exists.1 hdrops.2
    cases hname.symm.trans hkind

/-- Only to press the pointer on the chosen object takes hold of it, and this is shown. -/
theorem handles_pointerDown {pixel : Point Float} (h : (a.pointerDown pixel).2.carriedOut) :
    a.Handles (.pointerDown pixel) (a.pointerDown pixel).1 := by
  unfold pointerDown at h ⊢
  obtain hpress | ⟨kind, target, reference, step, t, x, hphase, -, -, -, htake⟩ :=
    a.session.pointerDown_cases pixel
  · rw [hpress] at h ⊢
    exact handles_follow_steady rfl rfl h And.right
  · rw [htake] at h ⊢
    refine .takes ?_ (a.dragging_follow _ _) (cursor_follow h)
    rw [dragging, Session.dragging, hphase]
    rfl

theorem handles_pointerMove {pixel : Point Float} (h : (a.pointerMove pixel).2.carriedOut) :
    a.Handles (.pointerMove pixel) (a.pointerMove pixel).1 := by
  unfold pointerMove at h ⊢
  split at h
  next s es hmove =>
    obtain ⟨rfl, rfl⟩ | ⟨kind, target, reference, grip, step, t, x, p, hphase, -, -, -, rfl, rfl⟩ :=
      Session.pointerMove_cases hmove
    · exact handles_follow_steady rfl rfl h And.right
    · refine handles_follow_steady ?_ rfl h And.right
      rw [Session.dragging, Session.dragging, hphase]
      rfl
  next => exact .steady And.right rfl rfl

/-- To release the pointer lets go of an object, and the cursor shows it. -/
theorem handles_pointerUp {pixel : Point Float} (h : (a.pointerUp pixel).2.carriedOut) :
    a.Handles (.pointerUp pixel) (a.pointerUp pixel).1 := by
  have hover := a.session.dragging_pointerUp pixel
  unfold pointerUp at h ⊢
  cases hbefore : a.session.dragging with
  | true =>
    rw [Session.pointerUp_of_dragging hbefore] at h hover ⊢
    exact .releases And.right hbefore ((a.dragging_follow _ _).trans hover) (cursor_follow h)
  | false =>
    split at h
    next s es hup =>
      rw [hup] at hover
      exact handles_follow_steady (hover.trans hbefore.symm) (Session.silent_pointerUp hbefore hup)
        h And.right
    next s e hup =>
      rw [hup] at hover
      exact .steady And.right (hover.trans hbefore.symm) rfl

/-- To record the action drops what is held. -/
theorem handles_finish (h : a.finish.2.carriedOut) : a.Handles .finish a.finish.1 := by
  unfold finish at h ⊢
  split at h
  next s es hfinish =>
    obtain ⟨x, hx, -, -⟩ := Session.finish_cases hfinish
    refine handles_follow_loose (Session.loose_finish hfinish) h fun hbefore ↦ ⟨hbefore, ?_⟩
    exact Option.isSome_iff_exists.2 ⟨x, hx⟩
  next e hfinish =>
    refine .steady (fun hdrops ↦ ?_) rfl rfl
    obtain ⟨x, hx⟩ := Option.isSome_iff_exists.1 hdrops.2
    rw [Session.finish, hx] at hfinish
    cases hfinish

/-- What each call does to a drag and to the cursor, if the canvas does not fail it. -/
theorem handles_perform (a : Annotator) (i : Input) (h : (a.perform i).2.carriedOut) :
    a.Handles i (a.perform i).1 := by
  have hflag {r : Reply Bool} (h : (r.map Answer.flag).carriedOut) : r.carriedOut := by
    rwa [Reply.carriedOut_map] at h
  cases i with
  | fault | beginLoad => exact .steady And.right rfl rfl
  | setViewport width height pixelRatio =>
    rw [perform, Reply.carriedOut_map] at h
    exact handles_setViewport h
  | completeLoad ticket body => exact a.handles_completeLoad ticket body
  | failLoad ticket status text => exact a.handles_failLoad ticket status text
  | chooseAction name => exact handles_chooseAction (hflag h)
  | pointerDown pixel => exact handles_pointerDown (hflag h)
  | pointerMove pixel => exact handles_pointerMove (hflag h)
  | pointerUp pixel => exact handles_pointerUp (hflag h)
  | finish => exact handles_finish (hflag h)
  | cancel =>
    exact handles_follow_loose a.session.loose_cancel (hflag h) fun hbefore ↦ ⟨hbefore, trivial⟩
  | beginSave =>
    change a.Handles _ a.beginSave.1
    unfold beginSave
    split
    next => exact .steady And.right rfl rfl
    next => exact .steady And.right rfl rfl
  | completeSave status text =>
    change a.Handles _ (a.completeSave status text).1
    unfold completeSave
    split
    next => exact .steady And.right rfl rfl
    next => exact .steady And.right rfl rfl

/-! ## Runs -/

/-- In the course of the calls an object is dropped, and afterwards none is taken. -/
def Dropped (a : Annotator) : List Input → Prop
  | [] => False
  | i :: inputs =>
      (a.Drops i ∧ (a.perform i).1.Along (fun a j ↦ (a.perform j).1.dragging = false) inputs) ∨
        (a.perform i).1.Dropped inputs

/-- While an object is held, the cursor shows it. -/
theorem Handles.shown (h : a.Handles i a') (ha : a.dragging → a.cursor = some "grabbing")
    (hheld : a'.dragging) : a'.cursor = some "grabbing" := by
  cases h with
  | steady _ hheld' hcursor => exact hcursor.trans (ha (hheld'.symm.trans hheld))
  | takes _ _ hcursor => exact hcursor
  | releases _ _ hheld' _ => cases hheld'.symm.trans hheld
  | drops _ hheld' _ => cases hheld'.symm.trans hheld

/-- The cursor goes on showing an object that is not held after the call that drops it. -/
theorem Handles.left_iff (h : a.Handles i a') (ha : a.dragging → a.cursor = some "grabbing") :
    (a'.cursor = some "grabbing" ∧ a'.dragging = false) ↔
      a.Drops i ∨ (a.cursor = some "grabbing" ∧ a.dragging = false) ∧ a'.dragging = false := by
  cases h with
  | steady hdrops hheld hcursor =>
    rw [hheld, hcursor, or_iff_right hdrops, and_assoc, and_self]
  | takes hbefore hheld hcursor => simp [hheld, not_drops hbefore]
  | releases hdrops hbefore hheld hcursor => simp [hcursor, hbefore, hdrops]
  | drops hdrops hheld hcursor => simp [hcursor, ha hdrops.1, hheld, hdrops]

/-- Dropping an object is what keeps the cursor from telling what is held. -/
theorem Handles.telling_iff (h : a.Handles i a') (ha : a.Telling) : a'.Telling ↔ ¬a.Drops i := by
  unfold Telling at ha ⊢
  cases h with
  | steady hdrops hheld hcursor =>
    rw [hheld, hcursor]
    exact iff_of_true ha hdrops
  | takes hbefore hheld hcursor => simp [hheld, hcursor, not_drops hbefore]
  | releases hdrops hbefore hheld hcursor => simp [hcursor, hheld, hdrops]
  | drops hdrops hheld hcursor => simp [hcursor, ha.2 hdrops.1, hheld, hdrops]

/-- After calls the cursor shows that an object is held if one is, if one has been dropped in the
course of them, or if one had been before and none has been taken since. -/
theorem cursor_iff {inputs : List Input}
    (h : a.Along (fun a i ↦ (a.perform i).2.carriedOut) inputs)
    (ha : a.dragging → a.cursor = some "grabbing") :
    (a.run inputs).cursor = some "grabbing" ↔ (a.run inputs).dragging ∨ a.Dropped inputs ∨
      (a.cursor = some "grabbing" ∧ a.dragging = false) ∧
        a.Along (fun a j ↦ (a.perform j).1.dragging = false) inputs := by
  induction inputs generalizing a with
  | nil => cases hheld : a.dragging <;> simp_all [Dropped, Along]
  | cons i inputs ih =>
    have hi := a.handles_perform i h.1
    rw [run_cons, ih h.2 (hi.shown ha), hi.left_iff ha, Along, Dropped]
    tauto

/-- The cursor tells what is held all the time exactly if no call drops anything. -/
theorem telling_prefixes_iff {inputs : List Input}
    (h : a.Along (fun a i ↦ (a.perform i).2.carriedOut) inputs) (ha : a.Telling) :
    (∀ before, before <+: inputs → (a.run before).Telling) ↔
      a.Along (fun a i ↦ ¬a.Drops i) inputs := by
  induction inputs generalizing a with
  | nil => exact iff_of_true (fun before hbefore ↦ List.prefix_nil.1 hbefore ▸ ha) trivial
  | cons i inputs ih =>
    have hi := (a.handles_perform i h.1).telling_iff ha
    constructor
    · intro htelling
      have hnext : (a.perform i).1.Telling := htelling [i] ⟨inputs, rfl⟩
      exact ⟨hi.1 hnext, (ih h.2 hnext).1 fun before hbefore ↦
        htelling (i :: before) (List.cons_prefix_cons.2 ⟨rfl, hbefore⟩)⟩
    · rintro ⟨hdrops, hlater⟩ before hbefore
      cases before with
      | nil => exact ha
      | cons j before =>
        obtain ⟨rfl, hprefix⟩ := List.cons_prefix_cons.1 hbefore
        exact (ih h.2 (hi.2 hdrops)).2 hlater before hprefix

/-- The pea is held. -/
theorem dragging_takePea : (start.run (bringTray ++ takePea)).dragging := by
  rw [dragging, session_takePea]
  rfl

/-- Nothing is dropped on the way there. -/
theorem along_takePea : start.Along (fun a i ↦ ¬a.Drops i) (bringTray ++ takePea) := by
  have hserved : (start.run bringTray).dragging = false :=
    congrArg Session.dragging session_bringTray
  refine Along.append ⟨And.right, And.right, not_drops rfl, trivial⟩ ?_
  exact ⟨not_drops hserved, And.right, And.right, And.right, trivial⟩

/-- At the start no cursor has been asked for, and nothing is held. -/
theorem telling_start : start.Telling :=
  iff_of_false (Option.some_ne_none _).symm Bool.false_ne_true

/-- As long as the canvas fails no call, the cursor shows that an object is held exactly if one is,
or the last one was dropped and none has been taken since.  So it tells what is held all the time
exactly if no call drops anything. -/
theorem cursor_run {inputs : List Input}
    (h : start.Along (fun a i ↦ (a.perform i).2.carriedOut) inputs) :
    ((start.run inputs).cursor = some "grabbing" ↔
        (start.run inputs).dragging ∨ start.Dropped inputs) ∧
      ((∀ before, before <+: inputs → (start.run before).Telling) ↔
        start.Along (fun a i ↦ ¬a.Drops i) inputs) := by
  refine ⟨?_, telling_prefixes_iff h telling_start⟩
  have hblank : ¬((start.cursor = some "grabbing" ∧ start.dragging = false) ∧
      start.Along (fun a j ↦ (a.perform j).1.dragging = false) inputs) := fun h ↦
    Bool.false_ne_true (h.1.2.symm.trans (telling_start.1 h.1.1))
  rw [cursor_iff h telling_start.2, or_iff_left hblank]

/-- The pea is taken and released. -/
theorem cursor_run_pea :
    let inputs := bringTray ++ takePea ++ [.pointerUp ⟨30, 40⟩]
    start.Along (fun a i ↦ (a.perform i).2.carriedOut) inputs ∧
      (start.run (bringTray ++ takePea)).dragging ∧
        ∀ before, before <+: inputs → (start.run before).Telling := by
  intro inputs
  have hdone : start.Along (fun a i ↦ (a.perform i).2.carriedOut) inputs :=
    along_carriedOut rfl (by simp [inputs, bringTray, takePea])
  have hdrops : start.Along (fun a i ↦ ¬a.Drops i) inputs :=
    along_takePea.append ⟨And.right, trivial⟩
  exact ⟨hdone, dragging_takePea, (cursor_run hdone).2.2 hdrops⟩

/-- The pea is taken and then given up, with the pointer still down.  The cursor goes on showing
that it is held. -/
theorem grabbing_cancel :
    let inputs := bringTray ++ takePea ++ [.cancel]
    start.Along (fun a i ↦ (a.perform i).2.carriedOut) inputs ∧
      (start.run inputs).cursor = some "grabbing" ∧ (start.run inputs).dragging = false := by
  intro inputs
  have hdone : start.Along (fun a i ↦ (a.perform i).2.carriedOut) inputs :=
    along_carriedOut rfl (by simp [inputs, bringTray, takePea])
  refine ⟨hdone, ?_⟩
  obtain ⟨hbefore, hcancel, -⟩ := hdone.of_append
  have htelling : (start.run (bringTray ++ takePea)).Telling :=
    (telling_prefixes_iff hbefore telling_start).2 along_takePea _ (List.prefix_refl _)
  rw [run_append, run_cons, run_nil]
  exact ((handles_perform _ _ hcancel).left_iff htelling.2).2 (.inl ⟨dragging_takePea, trivial⟩)

end Annotator

end Rearrangement
