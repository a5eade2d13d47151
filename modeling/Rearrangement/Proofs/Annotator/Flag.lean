import Rearrangement.Proofs.Annotator.Cursor
import Rearrangement.Proofs.Cells.Drag

/-!
# What the flag tells

A call answers by a flag whether the selection or the action in progress has changed.  The flag is
up as soon as the session reports a selection, and whatever is chosen, recorded or given up is
reported so.  A pointer that moves reports nothing of the kind: it leaves alone what is chosen and
recorded, but the first preview that it shows makes an action out of what was none before.  This is
the one change that the flag keeps silent about (`flag_run`).

## Main statements

* `Session.standing_perform`: an operation whose effects report no selection leaves everything as
  it stands, the first preview apart.
* `Annotator.standing_perform`: so does a call that answers `false`.
* `AwaitsPreview.pointerMove`: the first preview does make a difference, since there is something to
  record after it.
* `flag_run`: both together, for every run.
* `silent_preview`: a run in which the flag keeps silent.

`Standing` is what the flag is about.  `AwaitsPreview` says which moves of the pointer are first
previews in terms of the session before the move, so that the exception can be told in advance.
That such a move leads the object somewhere needs bounds in order (`exists_followed_of_ordered`).
-/

namespace Rearrangement

/-! ## Sessions -/

/-- What the flag is about: the chosen objects, the recorded actions, and whether there is an action
in progress that could be recorded. -/
structure Standing (R : Type) where
  target : Option ObjectId
  reference : Option ObjectId
  trajectory : List (Action R)
  recordable : Bool

/-- A selection that is reported raises the flag, whatever else is reported. -/
theorem EffectSummary.changed_foldl {R : Type} {es : List (Effect R)} {s : EffectSummary}
    (h : s.changed ∨ .selectionChanged ∈ es) : (es.foldl add s).changed := by
  induction es generalizing s with
  | nil => simpa using h
  | cons e es ih =>
    refine ih ?_
    rcases h with h | h
    · left
      cases e <;> simp [add, h]
    · rcases List.mem_cons.1 h with rfl | h
      · exact .inl rfl
      · exact .inr h

/-- What does not raise the flag does not report a selection. -/
theorem EffectSummary.not_mem_of_changed {R : Type} {es : List (Effect R)}
    (h : (ofEffects es).changed = false) : .selectionChanged ∉ es := fun hmem ↦
  Bool.false_ne_true (h.symm.trans (changed_foldl (.inr hmem)))

namespace Session

variable {R : Type}

def standing (s : Session R) : Standing R :=
  ⟨s.phase.target, s.phase.reference, s.trajectory, s.phase.action.isSome⟩

/-- A move of the pointer would show the first preview of an action: the chosen object is held, or
it is turned, and there is nothing to record yet. -/
def AwaitsPreview (s : Session R) : Prop :=
  s.phase.action = none ∧ (s.dragging ∨ s.phase.mode = some .rotate ∧ s.phase.target.isSome)

variable {s s' : Session R} {es : List (Effect R)} {pixel : Point R}

theorem standing_release (s : Session R) : s.release.standing = s.standing := by
  unfold release
  split
  next hphase =>
    unfold standing
    rw [hphase]
    rfl
  next => rfl

/-- To give up an action without a report of it finds none to give up. -/
theorem standing_cancel (hes : .selectionChanged ∉ s.cancel.2) :
    s.cancel.1.standing = s.standing := by
  unfold cancel at hes ⊢
  split at hes
  next => simp at hes
  next =>
    dsimp only at hes
    split at hes
    next hidle =>
      unfold standing
      cases hphase : s.phase with
      | idle => rfl
      | _ =>
        rw [hphase] at hidle
        cases hidle
    next => simp at hes

/-- A click on nothing that reports no selection does nothing. -/
theorem eq_of_clickEmpty (h : s.clickEmpty = .ok (s', es)) (hes : .selectionChanged ∉ es) :
    s' = s := by
  obtain h | ⟨-, ⟨hsame, -⟩ | ⟨_, -, -, rfl⟩⟩ := clickEmpty_cases h
  · obtain ⟨_, -, -, rfl⟩ := finish_cases h
    simp at hes
  · exact hsame
  · simp [selectionEffects] at hes

variable [Scalar R]

/-- A click that reports no selection has met nothing to do. -/
theorem eq_of_clickObject {id : ObjectId} (h : s.clickObject id = .ok (s', es))
    (hes : .selectionChanged ∉ es) : s' = s := by
  obtain ⟨hsame, -⟩ | ⟨t, x, -, -, ⟨kind, -, h⟩ | ⟨kind, target, before, -, h⟩⟩ :=
    clickObject_cases h
  · exact hsame
  · obtain ⟨-, h⟩ | ⟨rfl, -⟩ := selectTarget_cases h
    · obtain ⟨_, _, _, -, -, -, rfl⟩ := toggleLid_cases h
      simp [selectionEffects] at hes
    · simp [selectionEffects] at hes
  · obtain ⟨rfl, -⟩ := selectReference_cases h
    simp [selectionEffects] at hes

/-- A click that reports no selection does nothing. -/
theorem eq_of_click (h : s.click pixel = .ok (s', es)) (hes : .selectionChanged ∉ es) :
    s' = s := by
  obtain h | ⟨id, h⟩ := click_cases h
  · exact eq_of_clickEmpty h hes
  · exact eq_of_clickObject h hes

theorem standing_pointerDown (s : Session R) (pixel : Point R) :
    (s.pointerDown pixel).1.standing = s.standing := by
  obtain h | ⟨kind, target, reference, step, t, x, hphase, -, -, -, h⟩ := s.pointerDown_cases pixel
  · rw [h]
    rfl
  · rw [h, standing, standing, hphase]
    rfl

/-- A release that reports no selection leaves alone what is chosen and recorded. -/
theorem standing_pointerUp (h : s.pointerUp pixel = (s', .ok es))
    (hes : .selectionChanged ∉ es) : s'.standing = s.standing := by
  obtain ⟨_, -, hup⟩ | ⟨e, hup⟩ | ⟨-, _, _, hclick, hup⟩ := s.pointerUp_cases pixel
  · obtain ⟨rfl, -⟩ := Prod.mk.inj (hup.symm.trans h)
    exact s.standing_release
  · cases (Prod.mk.inj (hup.symm.trans h)).2
  · obtain ⟨rfl, heffects⟩ := Prod.mk.inj (hup.symm.trans h)
    obtain rfl := Except.ok.inj heffects
    rw [eq_of_click hclick hes, standing_release]

/-- A pointer that leads the chosen object somewhere makes an action of it. -/
theorem pointerMove_standing (h : s.pointerMove pixel = .ok (s', es)) :
    es = [] ∧ s' = s ∨ es = [.renderNeeded] ∧ s'.standing = { s.standing with recordable := true } ∧
      (s.AwaitsPreview ∨ s.standing.recordable = true) := by
  obtain ⟨rfl, rfl⟩ | ⟨kind, target, reference, grip, step, t, x, p, hphase, -, -, hp, rfl, rfl⟩ :=
    pointerMove_cases h
  · exact .inl ⟨rfl, rfl⟩
  · refine .inr ⟨rfl, ?_, ?_⟩
    · rw [standing, standing, hphase]
      rfl
    · rw [AwaitsPreview, dragging, standing, hphase]
      cases haction : step.action with
      | some a => exact .inr (congrArg Option.isSome haction)
      | none =>
        refine .inl ⟨haction, ?_⟩
        rcases followed_cases hp with ⟨rfl, -⟩ | ⟨g, rfl, -⟩
        · exact .inr ⟨rfl, rfl⟩
        · exact .inl rfl

/-- A move of the pointer that shows no first preview leaves everything as it stands. -/
theorem standing_pointerMove (h : s.pointerMove pixel = .ok (s', es)) (hs : ¬s.AwaitsPreview) :
    s'.standing = s.standing := by
  obtain ⟨-, rfl⟩ | ⟨-, hstanding, hwaits | hrecordable⟩ := pointerMove_standing h
  · rfl
  · exact absurd hwaits hs
  · rw [hstanding, ← hrecordable]

section Effects

omit [Scalar R]

theorem eq_ok_of_settle {ε : Type} {cause : ε → SessionError}
    {x : Except ε (Session R × List (Effect R))}
    (h : s.settle cause .effects x = (s', .effects es)) : x = .ok (s', es) := by
  cases x with
  | ok r =>
    obtain ⟨rfl, hes⟩ := Prod.mk.inj h
    obtain rfl := Outcome.effects.inj hes
    rfl
  | error e => cases h

theorem eq_ok_of_outcomeOf {ε : Type} {cause : ε → SessionError} {x : Except ε (List (Effect R))}
    (h : outcomeOf cause .effects x = .effects es) : x = .ok es := by
  cases x with
  | ok es' => exact congrArg _ (Outcome.effects.inj h)
  | error e => cases h

/-- What answers otherwise has no effects. -/
theorem outcomeOf_ne_effects {α ε : Type} {cause : ε → SessionError} {outcome : α → Outcome R}
    (h : ∀ a, outcome a ≠ .effects es) (x : Except ε α) : outcomeOf cause outcome x ≠ .effects es :=
  match x with
  | .ok a => h a
  | .error _ => nofun

end Effects

/-- An operation whose effects report no selection leaves everything as it stands, unless it shows
the first preview of an action. -/
theorem standing_perform {op : Operation R} (h : s.perform op = (s', .effects es))
    (hes : .selectionChanged ∉ es) (hop : (∃ pixel, op = .pointerMove pixel) → ¬s.AwaitsPreview) :
    s'.standing = s.standing := by
  have hresult := (Prod.mk.inj h).2
  cases op with
  | beginLoad id => cases hresult
  | completeLoad | load | requestSave | completeSave =>
    exact absurd hresult (outcomeOf_ne_effects nofun _)
  | replay a =>
    have hsettle : s.settle id .replayed (s.replay a) = (s', .effects es) := h
    cases hreplay : s.replay a <;> rw [hreplay] at hsettle <;> cases hsettle
  | resize width height =>
    obtain ⟨rfl, -⟩ := Prod.mk.inj h
    rfl
  | choose kind =>
    have heffects : selectionEffects = es := Outcome.effects.inj hresult
    simp [← heffects, selectionEffects] at hes
  | click pixel => rw [eq_of_click (eq_ok_of_settle h) hes]
  | clickObject id => rw [eq_of_clickObject (eq_ok_of_settle h) hes]
  | clickEmpty => rw [eq_of_clickEmpty (eq_ok_of_settle h) hes]
  | pointerDown pixel =>
    obtain ⟨rfl, -⟩ := Prod.mk.inj h
    exact s.standing_pointerDown pixel
  | pointerMove pixel => exact standing_pointerMove (eq_ok_of_settle h) (hop ⟨pixel, rfl⟩)
  | pointerUp pixel =>
    obtain ⟨rfl, -⟩ := Prod.mk.inj h
    exact standing_pointerUp (Prod.ext rfl (eq_ok_of_outcomeOf hresult)) hes
  | finish =>
    obtain ⟨_, -, -, rfl⟩ := finish_cases (eq_ok_of_settle h)
    simp at hes
  | cancel =>
    obtain ⟨rfl, hes'⟩ := Prod.mk.inj h
    obtain rfl := Outcome.effects.inj hes'
    exact standing_cancel hes

/-- If the bounds of the world are in order, an object that is turned or held is led somewhere. -/
theorem exists_followed_of_ordered (o : SceneObject R) (pixel : Point R) {kind : ActionKind}
    {grip : Option (Grip R)} {v : Viewport R} (hw : v.world.Ordered)
    (hkind : kind = .rotate ∨ kind.isDrag ∧ grip.isSome) :
    ∃ p, followed o kind grip pixel v = .ok (some p) := by
  rcases hkind with rfl | ⟨hdrag, hgrip⟩
  · exact ⟨_, rfl⟩
  · obtain ⟨g, rfl⟩ := Option.isSome_iff_exists.1 hgrip
    cases kind with
    | putNear =>
      obtain ⟨c, hc⟩ := g.exists_alongAxis? pixel hw
      exact ⟨⟨⟨c.x, c.y, o.position.z⟩, o.orientation⟩, by simp only [followed, hc]⟩
    | move =>
      obtain ⟨c, hc⟩ := Option.ne_none_iff_exists'.1
        fun hnone : g.free? pixel v = none ↦ Grip.free?_eq_none.1 hnone hw
      exact ⟨⟨⟨c.x, c.y, o.position.z⟩, o.orientation⟩, by simp only [followed, hc]⟩
    | openLid | closeLid | putIn | putOn | rotate => cases hdrag

/-- An object that awaits a preview is turned or held. -/
theorem AwaitsPreview.exists_manipulate (h : s.AwaitsPreview) (hs : s.Coherent)
    (hchosen : s.progress.Chosen) : ∃ kind target reference grip step,
      s.phase = .manipulate kind target reference grip step ∧
        (kind = .rotate ∨ kind.isDrag ∧ grip.isSome) := by
  obtain ⟨haction, hheld⟩ := h
  have hsound := hs.sound
  rw [progress] at hsound hchosen
  rw [dragging] at hheld
  cases hphase : s.phase with
  | manipulate kind target reference grip step =>
    rw [hphase] at hchosen hheld
    refine ⟨kind, target, reference, grip, step, rfl, ?_⟩
    rcases hheld with hgrip | ⟨hmode, -⟩
    · exact .inr ⟨hchosen.2 hgrip, hgrip⟩
    · exact .inl (Option.some.inj hmode)
  | idle | selectTarget =>
    rw [hphase] at hheld
    rcases hheld with hgrip | ⟨-, htarget⟩
    · cases hgrip
    · cases htarget
  | selectReference kind target before =>
    -- what is turned is not related to anything
    rw [hphase] at hsound hheld
    rcases hheld with hgrip | ⟨hmode, -⟩
    · cases hgrip
    · obtain rfl := Option.some.inj hmode
      cases hsound.2.1
  | awaitCommit =>
    rw [hphase] at haction
    cases haction

/-- The first preview is shown, and there is something to record. -/
theorem AwaitsPreview.pointerMove (h : s.AwaitsPreview) (hs : s.Coherent)
    (hchosen : s.progress.Chosen) (hw : s.config.world.Ordered) (pixel : Point R) :
    ∃ s', s.pointerMove pixel = .ok (s', [.renderNeeded]) ∧ s.standing.recordable = false ∧
      s'.standing = { s.standing with recordable := true } := by
  obtain ⟨kind, target, reference, grip, step, hphase, hkind⟩ := h.exists_manipulate hs hchosen
  have htarget : s.phase.target = some target := by
    rw [hphase]
    rfl
  obtain ⟨t, o, ht, ho⟩ := hs.sound.exists_chosen hchosen (.inl htarget)
  rw [← hs.world] at hw
  obtain ⟨p, hp⟩ := exists_followed_of_ordered o pixel hw hkind
  have hmove : s.pointerMove pixel = .ok ({ s with
      table := some (t.place kind target p reference)
      phase := .manipulate kind target reference grip
        { step with action := some ⟨kind, target, reference, p⟩ } }, [.renderNeeded]) := by
    change s.table = some t at ht
    rw [Session.pointerMove, hphase, ht]
    simp only [ho, hp]
    rfl
  refine ⟨_, hmove, congrArg Option.isSome h.1, ?_⟩
  rw [standing, standing, hphase]
  rfl

end Session

/-! ## Annotators -/

namespace Easel

variable {e : Easel} {es : List (Effect Float)}

/-- The flag is the one that effects ask for, whatever the canvas is asked to do. -/
theorem changed_dispatch {b : Bool} (h : (e.dispatch es).2.2 = .ok b) :
    b = (EffectSummary.ofEffects es).changed := by
  unfold dispatch at h
  generalize EffectSummary.ofEffects es = summary at h ⊢
  obtain ⟨render, cursor, changed⟩ := summary
  have hrender {e : Easel} (h : e.render.2.2.map (fun _ ↦ changed) = .ok b) : b = changed := by
    cases hresult : e.render.2.2 with
    | error f =>
      rw [hresult] at h
      cases h
    | ok =>
      rw [hresult] at h
      exact (Except.ok.inj h).symm
  cases cursor with
  | none =>
    cases render with
    | false => exact (Except.ok.inj h).symm
    | true => exact hrender h
  | some name =>
    dsimp only at h
    split at h
    next => cases h
    next =>
      cases render with
      | false => exact (Except.ok.inj h).symm
      | true => exact hrender h

end Easel

namespace Annotator

def standing (a : Annotator) : Standing Float := a.session.standing

/-- The call shows the first preview of an action. -/
def PreviewsFirst (a : Annotator) (i : Input) : Prop :=
  (∃ pixel, i = .pointerMove pixel) ∧ a.session.AwaitsPreview

variable {a : Annotator} {i : Input} {s : Session Float} {es : List (Effect Float)}

/-- The flag of a call is what its effects make of it. -/
theorem changed_follow {b : Bool} (h : (a.follow s es).2.result = .ok b) :
    b = (EffectSummary.ofEffects es).changed := by
  change ((a.withSession s).easel.dispatch es).2.2.mapError AnnotatorError.canvas = .ok b at h
  cases hresult : ((a.withSession s).easel.dispatch es).2.2 with
  | error f =>
    rw [hresult] at h
    cases h
  | ok b' =>
    rw [hresult] at h
    obtain rfl : b' = b := Except.ok.inj h
    exact Easel.changed_dispatch hresult

/-- If the flag stays down, no selection has been reported. -/
theorem silent_follow (h : (a.follow s es).2.result = .ok false) : .selectionChanged ∉ es :=
  EffectSummary.not_mem_of_changed (changed_follow h).symm

theorem standing_follow (a : Annotator) (s : Session Float) (es : List (Effect Float)) :
    (a.follow s es).1.standing = s.standing := congrArg Session.standing (a.session_follow s es)

theorem result_of_map_flag {r : Reply Bool} {b : Bool}
    (h : (r.map Answer.flag).result = .ok (.flag b)) : r.result = .ok b := by
  obtain ⟨calls, result⟩ := r
  cases result with
  | error e => cases h
  | ok b' =>
    obtain rfl : b' = b := Answer.flag.inj (Except.ok.inj h)
    rfl

theorem eq_pointerMove_of_operation? {pixel : Point Float}
    (h : i.operation? = some (.pointerMove pixel)) : i = .pointerMove pixel := by
  cases i with
  | pointerMove pixel' => cases h; rfl
  | chooseAction name =>
    obtain ⟨kind, -, hkind⟩ := Option.map_eq_some_iff.1 h
    cases hkind
  | _ => cases h

/-- A call that answers `false` leaves everything as it stands, unless it shows the first preview of
an action. -/
theorem standing_perform (hi : i.isInteraction) (hpreview : ¬a.PreviewsFirst i)
    (h : (a.perform i).2.result = .ok (.flag false)) : (a.perform i).1.standing = a.standing := by
  have hworks := a.works_perform hi
  generalize hop? : i.operation? = op?, a.perform i = r at hworks h ⊢
  cases hworks with
  | follows hop =>
    refine (standing_follow _ _ _).trans
      (Session.standing_perform hop (silent_follow (result_of_map_flag h)) ?_)
    rintro ⟨pixel, rfl⟩ hwaits
    exact hpreview ⟨⟨pixel, eq_pointerMove_of_operation? hop?⟩, hwaits⟩
  | fails hop => cases h
  | unknown name => cases h

/-- The first preview of an action is shown, and the flag stays down. -/
theorem pointerMove_of_awaitsPreview {pixel : Point Float} (h : a.session.AwaitsPreview)
    (hs : a.session.Coherent) (hchosen : a.session.progress.Chosen)
    (hw : a.session.config.world.Ordered) (hdone : (a.pointerMove pixel).2.carriedOut) :
    (a.pointerMove pixel).2.result = .ok false ∧ a.standing.recordable = false ∧
      (a.pointerMove pixel).1.standing = { a.standing with recordable := true } := by
  obtain ⟨s, hmove, hnone, hstanding⟩ := h.pointerMove hs hchosen hw pixel
  have hfollow : a.pointerMove pixel = a.follow s [.renderNeeded] := by
    rw [pointerMove, hmove]
  rw [hfollow] at hdone ⊢
  refine ⟨?_, hnone, (standing_follow _ _ _).trans hstanding⟩
  obtain ⟨b, hresult⟩ := Reply.exists_ok_of_carriedOut hdone
  have hok : (a.follow s [.renderNeeded]).2.result = .ok b :=
    congrArg (Except.mapError AnnotatorError.canvas) hresult
  rw [hok, changed_follow hok]
  rfl

/-- In every run the flag keeps silent about the first preview of an action. -/
theorem silent_of_previewsFirst {inputs : List Input} (h : (start.run inputs).PreviewsFirst i)
    (hdone : ((start.run inputs).perform i).2.carriedOut) :
    ((start.run inputs).perform i).2.result = .ok (.flag false) ∧
      (start.run inputs).standing.recordable = false ∧
        ((start.run inputs).perform i).1.standing =
          { (start.run inputs).standing with recordable := true } := by
  obtain ⟨⟨pixel, rfl⟩, hwaits⟩ := h
  have hrun := session_run start inputs
  have hs : (start.run inputs).session.Coherent := hrun ▸ (Session.coherent_start _).run _
  have hchosen : (start.run inputs).session.progress.Chosen := hrun ▸ Session.chosen_run _ _
  have hw : (start.run inputs).session.config.world.Ordered := by
    rw [hrun, Session.run_config]
    decide +kernel
  rw [perform, Reply.carriedOut_map] at hdone
  obtain ⟨hresult, hnone, hstanding⟩ := pointerMove_of_awaitsPreview hwaits hs hchosen hw hdone
  exact ⟨congrArg (Except.map Answer.flag) hresult, hnone, hstanding⟩

/-- In every run a call that answers `false` leaves alone what is chosen and recorded and what can
be recorded, unless it shows the first preview of an action.  That makes an action out of what was
none before, and always answers `false`. -/
theorem flag_run (inputs : List Input) {i : Input} (hi : i.isInteraction) :
    let a := start.run inputs
    ((a.perform i).2.result = .ok (.flag false) →
        ((a.perform i).1.standing = a.standing ↔ ¬a.PreviewsFirst i)) ∧
      (a.PreviewsFirst i → (a.perform i).2.carriedOut →
        (a.perform i).2.result = .ok (.flag false) ∧ a.standing.recordable = false ∧
          (a.perform i).1.standing = { a.standing with recordable := true }) := by
  intro a
  refine ⟨fun hresult ↦ ⟨fun hsame hpreview ↦ ?_, fun hpreview ↦ ?_⟩, silent_of_previewsFirst⟩
  · have hdone : (a.perform i).2.carriedOut := by
      rw [Reply.carriedOut, hresult]
    obtain ⟨-, hnone, hstanding⟩ := silent_of_previewsFirst hpreview hdone
    rw [← hsame, hstanding] at hnone
    cases hnone
  · exact standing_perform hi hpreview hresult

/-! ## The pea on the tray -/

/-- The pea is held, and has not been led anywhere. -/
theorem previewsFirst_pea (pixel : Point Float) :
    (start.run (bringTray ++ takePea)).PreviewsFirst (.pointerMove pixel) := by
  refine ⟨⟨pixel, rfl⟩, ?_, .inl dragging_takePea⟩
  rw [session_takePea]
  rfl

/-- The canvas does not fail when the pea is led away. -/
theorem carriedOut_movePea (pixel : Point Float) :
    ((start.run (bringTray ++ takePea)).perform (.pointerMove pixel)).2.carriedOut := by
  have hdone : start.Along (fun a i ↦ (a.perform i).2.carriedOut)
      (bringTray ++ takePea ++ [.pointerMove pixel]) :=
    along_carriedOut rfl (by simp [bringTray, takePea])
  exact hdone.of_append.2.1

/-- The pea is led away, and there is something to record. -/
theorem flag_run_pea :
    let a := start.run (bringTray ++ takePea)
    let i := Input.pointerMove ⟨80, 90⟩
    i.isInteraction ∧ a.PreviewsFirst i ∧ (a.perform i).2.carriedOut ∧
      (a.perform i).1.standing = { a.standing with recordable := true } := by
  obtain ⟨-, -, hstanding⟩ :=
    (flag_run (bringTray ++ takePea) rfl).2 (previewsFirst_pea ⟨80, 90⟩) (carriedOut_movePea _)
  exact ⟨rfl, previewsFirst_pea _, carriedOut_movePea _, hstanding⟩

/-- The pea is led away: there was nothing to record, now there is, and the flag stays down. -/
theorem silent_preview :
    let a := start.run (bringTray ++ takePea)
    let i := Input.pointerMove ⟨80, 90⟩
    (a.perform i).2.result = .ok (.flag false) ∧ a.standing.recordable = false ∧
      (a.perform i).1.standing.recordable := by
  obtain ⟨hresult, hnone, hstanding⟩ :=
    silent_of_previewsFirst (previewsFirst_pea ⟨80, 90⟩) (carriedOut_movePea _)
  exact ⟨hresult, hnone, congrArg Standing.recordable hstanding⟩

end Annotator

end Rearrangement
