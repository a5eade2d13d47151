import Rearrangement.Annotator.Run
import Rearrangement.Proofs.Session.Frame

/-!
# Saves that are under way

While the store is at work on a save, the annotator goes on, and may even show another scene.  A new
scene takes the save under way with it, whether or not the scene can be drawn, and so does an answer
of the store, whatever it is; nothing else does (`pendingSave_perform`).  So a save under way is of
the scene shown, and of actions that are still recorded, for up to the next scene actions are only
added.  `Saves` puts together what follows, and every run keeps it (`saves_run`).

## Main statements

* `pendingSave_perform`: what any call does to the save under way.
* `concerns_run`: in every run the save under way is of the scene shown, and its actions are the
  first ones of those recorded.
* `result_completeSave`: an answer of the store completes a save exactly if one is under way and the
  answer tells of success.
* `saves_run`: all of it, with what follows for the order of answers: a save is completed at most
  once, and never after another scene has been shown.

The invariant is `SaveRequest.Concerns`.  Sessions keep it (`Session.Coherent.concerns_perform`),
because every change but a load lengthens the trajectory or leaves it alone, and so do annotators.
Calls of the provider and of the store may come in any order, for the induction is over all calls
(`run_induction`).
-/

namespace Rearrangement

/-! ## What a session asks to be saved -/

section Sessions

variable {R : Type} [Scalar R] {w : World R} {v : Viewport R} {p q : Progress R}
  {op : Operation R} {o : Outcome R} {s : Session R} {r : SaveRequest R}

omit [Scalar R] in
/-- What is asked to be saved has been recorded on the scene shown. -/
def SaveRequest.Concerns (r : SaveRequest R) (s : Session R) : Prop :=
  ∃ scene ∈ s.scene?, r.sceneId = scene.id ∧
    r.payload.actions ≠ [] ∧ r.payload.actions <+: s.trajectory

omit [Scalar R] in
/-- What a session asks to be saved is of the scene that it shows. -/
theorem Session.concerns_of_saveRequest (h : s.saveRequest = .ok r) : r.Concerns s := by
  unfold saveRequest at h
  split at h
  next t a as htable htrajectory =>
    obtain rfl := Except.ok.inj h
    refine ⟨t.scene, by rw [scene?, htable]; rfl, rfl, nofun, ?_⟩
    exact htrajectory ▸ List.prefix_refl _
  next => cases h

/-- Unless another scene is shown, actions are only added to the trajectory. -/
theorem Change.trajectory_prefix (h : Change w v op o p q) (hload : o.loads = false) :
    p.trajectory <+: q.trajectory := by
  cases h with
  | quiet hquiet => exact hquiet.trajectory ▸ List.prefix_refl _
  | commit | replay => exact List.prefix_append _ _
  | choose => exact List.prefix_refl _
  | install _ _ ho => cases hload.symm.trans ho

/-- Unless another scene is shown, the scene keeps its identifier. -/
theorem Session.Coherent.sceneId_perform (hs : s.Coherent)
    (hload : (s.perform op).2.loads = false) :
    (s.perform op).1.scene?.map (·.id) = s.scene?.map (·.id) := by
  obtain ⟨x, hrel⟩ := (makes_perform s op).change.sameBut hs.sound hload
  change Option.Rel _ s.table (s.perform op).1.table at hrel
  unfold scene?
  generalize s.table = t, (s.perform op).1.table = u at hrel
  cases hrel with
  | none => rfl
  | some hsame => exact congrArg (fun setting ↦ some setting.1) hsame.scene.setting

/-- It goes on being so until another scene is shown. -/
theorem Session.Coherent.concerns_perform (hs : s.Coherent)
    (hload : (s.perform op).2.loads = false) (h : r.Concerns s) :
    r.Concerns (s.perform op).1 := by
  obtain ⟨scene, hscene, hid, hne, hprefix⟩ := h
  have hsame : (s.perform op).1.scene?.map (·.id) = some scene.id := by
    rw [hs.sceneId_perform hload, Option.mem_def.1 hscene]
    rfl
  obtain ⟨scene', hscene', hid'⟩ := Option.map_eq_some_iff.1 hsame
  exact ⟨scene', hscene', hid.trans hid'.symm, hne,
    hprefix.trans ((makes_perform s op).change.trajectory_prefix hload)⟩

end Sessions

/-- An operation that brings no bundle shows no scene. -/
theorem Session.loads_perform_eq_false {R : Type} [Scalar R] (s : Session R) (op : Operation R)
    (hop : op.bundle? = none) : (s.perform op).2.loads = false := by
  refine Bool.eq_false_iff.2 fun hload ↦ ?_
  obtain ⟨b, t, hb, -⟩ := (makes_perform s op).change.exists_bundle hload
  cases hop.symm.trans hb

namespace Annotator

/-- The call shows a new scene, whether or not it can be drawn. -/
def loads (a : Annotator) (i : Input) : Bool :=
  match i.operation? with
  | some op => (a.session.perform op).2.loads
  | none => false

/-- The call starts a save. -/
def beginsSave (a : Annotator) (i : Input) : Bool :=
  match i, a.session.saveRequest with
  | .beginSave, .ok _ => true
  | _, _ => false

/-- Each call of the run, on the annotator as it is then, is as `P` says. -/
def Along (P : Annotator → Input → Prop) (a : Annotator) : List Input → Prop
  | [] => True
  | i :: inputs => P a i ∧ (a.perform i).1.Along P inputs

variable {a : Annotator} {i : Input}

/-! ## The session -/

theorem coherent_perform (ha : a.session.Coherent) (i : Input) :
    (a.perform i).1.session.Coherent := by
  rw [session_perform]
  cases i.operation? with
  | none => exact ha
  | some op => exact ha.perform op

/-- What each call keeps is kept by every run. -/
theorem run_induction {P : Annotator → Prop} (hstep : ∀ a i, P a → P (a.perform i).1) (h : P a)
    (inputs : List Input) : P (a.run inputs) := by
  induction inputs generalizing a with
  | nil => exact h
  | cons i inputs ih => exact ih (hstep a i h)

/-- Only the body of an answer shows another scene. -/
theorem loads_eq_false (h : ∀ ticket body, i ≠ .completeLoad ticket body) : a.loads i = false := by
  cases i with
  | completeLoad ticket body => exact absurd rfl (h ticket body)
  | chooseAction name =>
    rw [loads, Input.operation?]
    cases ActionKind.ofName? name <;> rfl
  | failLoad ticket status text =>
    exact a.session.loads_perform_eq_false (.completeLoad ticket (.error _)) rfl
  | pointerMove pixel => exact a.session.loads_perform_eq_false (.pointerMove pixel) rfl
  | pointerUp pixel => exact a.session.loads_perform_eq_false (.pointerUp pixel) rfl
  | finish => exact a.session.loads_perform_eq_false .finish rfl
  | fault | setViewport | beginLoad | pointerDown | cancel | beginSave | completeSave => rfl

/-! ## The save under way -/

/-- To work with an annotator has nothing to do with saves. -/
theorem Works.pendingSave {op? : Option (Operation Float)} {r : Annotator × Reply Answer}
    (h : a.Works op? r) : r.1.pendingSave = a.pendingSave := by
  cases h with
  | follows | fails | unknown => rfl

/-- What becomes of the save under way. -/
theorem pendingSave_perform (a : Annotator) (i : Input) : (a.perform i).1.pendingSave =
    match i with
    | .beginSave => a.session.saveRequest.toOption.or a.pendingSave
    | .completeSave _ _ => none
    | _ => if a.loads i then none else a.pendingSave := by
  have hkept (h : ∀ ticket body, i ≠ .completeLoad ticket body) :
      a.pendingSave = if a.loads i then none else a.pendingSave := by
    rw [loads_eq_false h]
    rfl
  cases i with
  | completeLoad ticket body =>
    change (a.completeLoad ticket body).1.pendingSave = if (Session.outcomeOf _ _
      (a.session.deliver ticket (bundleOf body)).2).loads then none else a.pendingSave
    unfold completeLoad
    dsimp only
    split
    next h => rw [h]; rfl
    next h => rw [h]; rfl
    next h => rw [h]; rfl
  | beginSave =>
    change a.beginSave.1.pendingSave = _
    unfold beginSave
    cases a.session.saveRequest <;> rfl
  | completeSave status text =>
    change (a.completeSave status text).1.pendingSave = none
    unfold completeSave
    split
    next h => exact h
    next => rfl
  | fault | setViewport | beginLoad | failLoad => exact hkept nofun
  | chooseAction | pointerDown | pointerMove | pointerUp | finish | cancel =>
    exact (a.works_perform rfl).pendingSave.trans (hkept nofun)

/-- Unless a save is started, none comes to be under way. -/
theorem pendingSave_perform_eq_none (hsave : a.pendingSave = none)
    (hi : a.beginsSave i = false) : (a.perform i).1.pendingSave = none := by
  rw [pendingSave_perform]
  split
  next =>
    unfold beginsSave at hi
    cases hrequest : a.session.saveRequest with
    | error e => exact hsave
    | ok r =>
      rw [hrequest] at hi
      cases hi
  next => rfl
  next =>
    rw [hsave]
    exact ite_self _

/-- Without a save that is started, none comes to be under way. -/
theorem pendingSave_run_eq_none (hsave : a.pendingSave = none) {inputs : List Input}
    (h : a.Along (fun a i ↦ a.beginsSave i = false) inputs) :
    (a.run inputs).pendingSave = none := by
  induction inputs generalizing a with
  | nil => exact hsave
  | cons i inputs ih => exact ih (pendingSave_perform_eq_none hsave h.1) h.2

/-- A scene that is shown takes the save under way with it. -/
theorem pendingSave_of_loads (h : a.loads i) : (a.perform i).1.pendingSave = none := by
  rw [pendingSave_perform]
  split
  next => cases h
  next => rfl
  next => exact if_pos h

/-- The save under way is of the scene shown, and of actions that are still recorded. -/
theorem concerns_perform (ha : a.session.Coherent) (h : ∀ r ∈ a.pendingSave, r.Concerns a.session) :
    ∀ r ∈ (a.perform i).1.pendingSave, r.Concerns (a.perform i).1.session := by
  intro r hr
  rw [pendingSave_perform] at hr
  split at hr
  next =>
    rw [session_perform]
    rcases Option.or_eq_some_iff.1 hr with hr | ⟨-, hr⟩
    · cases hrequest : a.session.saveRequest with
      | error e =>
        rw [hrequest] at hr
        cases hr
      | ok r' =>
        rw [hrequest] at hr
        obtain rfl := Option.some.inj hr
        exact Session.concerns_of_saveRequest hrequest
    · exact h r hr
  next => cases hr
  next =>
    cases hloads : a.loads i with
    | true =>
      rw [hloads] at hr
      cases hr
    | false =>
      rw [hloads] at hr
      rw [session_perform]
      unfold loads at hloads
      cases hop : i.operation? with
      | none => exact h r hr
      | some op =>
        rw [hop] at hloads
        exact ha.concerns_perform hloads (h r hr)

/-- In every run the save under way is of the scene that is shown. -/
theorem concerns_run (inputs : List Input) :
    ∀ r ∈ (start.run inputs).pendingSave, r.Concerns (start.run inputs).session := by
  have hstep (a : Annotator) (i : Input)
      (h : a.session.Coherent ∧ ∀ r ∈ a.pendingSave, r.Concerns a.session) :
      (a.perform i).1.session.Coherent ∧
        ∀ r ∈ (a.perform i).1.pendingSave, r.Concerns (a.perform i).1.session :=
    ⟨coherent_perform h.1 i, concerns_perform h.1 h.2⟩
  have hstart : start.session.Coherent ∧ ∀ r ∈ start.pendingSave, r.Concerns start.session :=
    ⟨Session.coherent_start .standard, nofun⟩
  exact (run_induction hstep hstart inputs).2

/-! ## Answers of the store -/

/-- An answer of the store completes a save if one is under way and the answer tells of success. -/
theorem result_completeSave {status : Nat} {text : String} :
    (a.perform (.completeSave status text)).2.result = .ok .done ↔
      a.pendingSave.isSome ∧ 200 ≤ status ∧ status < 300 := by
  change ((a.completeSave status text).2.result.map fun _ ↦ Answer.done) = _ ↔ _
  unfold completeSave saveResult
  cases a.pendingSave with
  | none => simp [Reply.fail, Except.map]
  | some r =>
    by_cases hstatus : 200 ≤ status ∧ status < 300
    · simp [hstatus, Except.map, Except.mapError]
    · simp [hstatus, Except.map, Except.mapError]

/-- An answer of the store is refused if no save is under way. -/
theorem refused_of_pendingSave_eq_none (h : a.pendingSave = none) (status : Nat) (text : String) :
    (a.perform (.completeSave status text)).2.result =
      .error (.session (.precondition .nothingToSave)) := by
  change ((a.completeSave status text).2.result.map fun _ ↦ Answer.done) = _
  unfold completeSave
  rw [h]
  rfl

/-- What can be relied on about saves. -/
structure Saves (a : Annotator) : Prop where
  /-- The save under way is of the scene shown, and of actions that are still recorded. -/
  pending : ∀ r ∈ a.pendingSave, r.Concerns a.session
  /-- An answer of the store completes a save if one is under way and the answer tells of
  success. -/
  completed : ∀ status text, (a.perform (.completeSave status text)).2.result = .ok .done ↔
    a.pendingSave.isSome ∧ 200 ≤ status ∧ status < 300
  /-- After an answer of the store, no other one completes a save until one is started again. -/
  once : ∀ status text later, (a.perform (.completeSave status text)).1.Along
      (fun a i ↦ a.beginsSave i = false) later →
    ∀ status' text', (((a.perform (.completeSave status text)).1.run later).perform
      (.completeSave status' text')).2.result = .error (.session (.precondition .nothingToSave))
  /-- Once another scene is shown, whether or not it can be drawn, no answer of the store completes
  a save until one is started again. -/
  replaced : ∀ i later, a.loads i → (a.perform i).1.Along (fun a i ↦ a.beginsSave i = false) later →
    ∀ status text, (((a.perform i).1.run later).perform (.completeSave status text)).2.result =
      .error (.session (.precondition .nothingToSave))

/-- Whatever has been done, and in whatever order answers of the provider and of the store have come
in between, saves can be relied on: the one under way is of the scene shown, it is completed at most
once, and never after another scene has been shown. -/
theorem saves_run (inputs : List Input) : (start.run inputs).Saves where
  pending := concerns_run inputs
  completed _ _ := result_completeSave
  once status text _ hlater := refused_of_pendingSave_eq_none
    (pendingSave_run_eq_none (pendingSave_perform _ (.completeSave status text)) hlater)
  replaced _ _ hloads hlater := refused_of_pendingSave_eq_none
    (pendingSave_run_eq_none (pendingSave_of_loads hloads) hlater)

end Annotator

end Rearrangement
