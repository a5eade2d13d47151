import Rearrangement.Cells.Run
import Rearrangement.Proofs.Session.Rollback

/-!
# Handlers do what they say

A handler that is refused has written nothing, and one that goes through has recorded the actions
that it answers with, and no others: `Handler.Honest`.  It comes from the order in which a handler
goes about things: at first it only asks (`Asks`), and once it writes it cannot be refused any more
(`Writes`).  Loading apart, all handlers are honest, though the release of the pointer forgets the
press before it asks anything.

## Main statements

* `Asks.honest`, `Writes.honest`, `Asks.bind`: a handler that asks first and writes then is honest.
* `honest_clickObject`, `honest_pointerMove`, `honest_replay` and their like: every handler is so.
* `Operation.exists_honest`: every operation but the loading ones, up to what it uses up.
* `after_of_refused`: an operation that is refused changes nothing but that.

The statements are about handlers on any cells at all, not only on those that a run leads to: that a
refusal leaves the cells alone is a matter of the order of a handler's steps.  It is also what the
account of the trajectory rests on, since `Honest` says what is recorded in the same breath.
-/

namespace Rearrangement

open Scalar

variable {R α β ε : Type}

/-! ## What is recorded -/

def Effect.action? : Effect R → Option (Action R)
  | stepCommitted a => some a
  | _ => none

/-- The actions that are said to have been recorded. -/
def recordedIn (es : List (Effect R)) : List (Action R) := es.filterMap (·.action?)

/-- These actions, of which there is at most one, have been recorded from some cells to others, and
no scene has been requested. -/
structure Cells.Logs (c : Cells R) (as : List (Action R)) (c' : Cells R) : Prop where
  trajectory : c'.trajectory = c.trajectory ++ as
  single : as.length ≤ 1
  latestLoad : c'.latestLoad = c.latestLoad

namespace Cells

variable {c c' c'' : Cells R} {as : List (Action R)}

/-- Nothing has been recorded if neither the trajectory nor the number of requests has changed. -/
theorem logs_nil (htrajectory : c'.trajectory = c.trajectory)
    (hlatest : c'.latestLoad = c.latestLoad) : c.Logs [] c' :=
  ⟨by rw [htrajectory, List.append_nil], Nat.zero_le 1, hlatest⟩

theorem logs_self (c : Cells R) : c.Logs [] c := logs_nil rfl rfl

/-- What is recorded in two parts is recorded in a row, if the first part records nothing. -/
theorem Logs.trans (h : c.Logs [] c') (h' : c'.Logs as c'') : c.Logs as c'' := by
  refine ⟨?_, h'.single, ?_⟩
  · rw [h'.trajectory, h.trajectory, List.append_nil]
  · rw [h'.latestLoad, h.latestLoad]

end Cells

namespace Handler

/-! ## Asking before writing -/

/-- The handler writes nothing, whatever it is answered. -/
def Asks (x : Handler R α) : Prop := ∀ c,
  (∃ a, x.run c = .ok a c) ∨ ∃ e, x.run c = .error (.refused e) c

/-- The handler cannot be refused, and records what it says. -/
structure Writes (said : α → List (Action R)) (x : Handler R α) : Prop where
  done : ∀ {c a c'}, x.run c = .ok a c' → c.Logs (said a) c'
  refused : ∀ {c e c'}, x.run c ≠ .error (.refused e) c'
  broken : ∀ {c v c'}, x.run c = .error (.broken v) c' → c.Logs [] c'

/-- The handler writes nothing if it is refused, and records what it says if it goes through. -/
structure Honest (said : α → List (Action R)) (x : Handler R α) : Prop where
  done : ∀ {c a c'}, x.run c = .ok a c' → c.Logs (said a) c'
  refused : ∀ {c e c'}, x.run c = .error (.refused e) c' → c' = c
  broken : ∀ {c v c'}, x.run c = .error (.broken v) c' → c.Logs [] c'

section Rules

variable {said : β → List (Action R)} {x : Handler R α} {f : α → Handler R β}

/-- The second of two handlers is run where the first one has gone through. -/
theorem run_bind_cases {c : Cells R} {r : EStateM.Result Halt (Cells R) β}
    (h : (x >>= f).run c = r) : (∃ a c', x.run c = .ok a c' ∧ (f a).run c' = r) ∨
      ∃ halt c', x.run c = .error halt c' ∧ r = .error halt c' := by
  rw [EStateM.run_bind] at h
  split at h
  next a c' hrun => exact .inl ⟨a, c', hrun, h⟩
  next halt c' hrun => exact .inr ⟨halt, c', hrun, h.symm⟩

/-- What is asked first changes nothing of what a handler comes to, unless it is refused. -/
theorem Asks.run_bind (hx : x.Asks) (f : α → Handler R β) (c : Cells R) :
    (∃ a, (x >>= f).run c = (f a).run c) ∨ ∃ e, (x >>= f).run c = .error (.refused e) c := by
  rw [EStateM.run_bind]
  obtain ⟨a, ha⟩ | ⟨e, he⟩ := hx c
  · rw [ha]
    exact .inl ⟨a, rfl⟩
  · rw [he]
    exact .inr ⟨e, rfl⟩

/-- To ask and then to ask again is to ask. -/
theorem Asks.bind_asks (hx : x.Asks) (hf : ∀ a, (f a).Asks) : (x >>= f).Asks := by
  intro c
  obtain ⟨a, ha⟩ | ⟨e, he⟩ := hx.run_bind f c
  · rw [ha]
    exact hf a c
  · exact .inr ⟨e, he⟩

/-- A handler that first asks is as honest as what comes after. -/
theorem Asks.bind (hx : x.Asks) (hf : ∀ a, (f a).Honest said) : (x >>= f).Honest said := by
  constructor
  all_goals
    intro c _ c' h
    obtain ⟨a, ha⟩ | ⟨e, he⟩ := hx.run_bind f c
  · exact (hf a).done (ha.symm.trans h)
  · cases he.symm.trans h
  · exact (hf a).refused (ha.symm.trans h)
  · cases he.symm.trans h
    rfl
  · exact (hf a).broken (ha.symm.trans h)
  · cases he.symm.trans h

/-- To write and then to write again is to write. -/
theorem Writes.bind (hx : x.Writes fun _ ↦ []) (hf : ∀ a, (f a).Writes said) :
    (x >>= f).Writes said := by
  constructor
  · intro c b c' h
    obtain ⟨a, c₁, hrun, h⟩ | ⟨halt, c₁, -, h⟩ := run_bind_cases h
    · exact (hx.done hrun).trans ((hf a).done h)
    · cases h
  · intro c e c' h
    obtain ⟨a, c₁, -, h⟩ | ⟨halt, c₁, hrun, h⟩ := run_bind_cases h
    · exact (hf a).refused h
    · cases h
      exact hx.refused hrun
  · intro c v c' h
    obtain ⟨a, c₁, hrun, h⟩ | ⟨halt, c₁, hrun, h⟩ := run_bind_cases h
    · exact (hx.done hrun).trans ((hf a).broken h)
    · cases h
      exact hx.broken hrun

end Rules

section Basics

variable {said : α → List (Action R)} {x : Handler R α}

/-- A handler that only asks is honest. -/
theorem Asks.honest (hx : x.Asks) (hsaid : ∀ a, said a = []) : x.Honest said := by
  constructor
  all_goals
    intro c _ c' h
    obtain ⟨a, ha⟩ | ⟨e, he⟩ := hx c
  · cases ha.symm.trans h
    rw [hsaid]
    exact c.logs_self
  · cases he.symm.trans h
  · cases ha.symm.trans h
  · cases he.symm.trans h
    rfl
  · cases ha.symm.trans h
  · cases he.symm.trans h

/-- So is one that only writes. -/
theorem Writes.honest (hx : x.Writes said) : x.Honest said :=
  ⟨hx.done, fun h ↦ absurd h hx.refused, hx.broken⟩

theorem asks_get : (get : Handler R (Cells R)).Asks := fun c ↦ .inl ⟨c, rfl⟩

theorem asks_refuse (e : SessionError) : (refuse e : Handler R α).Asks := fun _ ↦ .inr ⟨e, rfl⟩

theorem asks_ask (cause : ε → SessionError) (x : Except ε α) :
    (ask cause x : Handler R α).Asks := by
  intro c
  cases x with
  | ok a => exact .inl ⟨a, rfl⟩
  | error e => exact .inr ⟨cause e, rfl⟩

theorem asks_loaded : (loaded : Handler R (Table R)).Asks := by
  refine asks_get.bind_asks fun c ↦ ?_
  split
  next t _ => exact fun _ ↦ .inl ⟨t, rfl⟩
  next => exact asks_refuse _

theorem honest_refuse (e : SessionError) : (refuse e : Handler R α).Honest said :=
  ⟨nofun, fun h ↦ by cases h; rfl, nofun⟩

/-- Writes that always go through. -/
theorem writes_of_run {a : α} {f : Cells R → Cells R} (hrun : ∀ c, x.run c = .ok a (f c))
    (h : ∀ c : Cells R, c.Logs (said a) (f c)) : x.Writes said := by
  refine ⟨?_, ?_, ?_⟩
  all_goals
    intro c _ c' hc
    cases (hrun c).symm.trans hc
  exact h c

theorem writes_pure {a : α} (ha : said a = []) : (pure a : Handler R α).Writes said := by
  refine writes_of_run (fun _ ↦ rfl) fun c ↦ ?_
  rw [ha]
  exact c.logs_self

/-- A change of the cells that records nothing is a way to write. -/
theorem writes_modify {f : Cells R → Cells R} (h : ∀ c : Cells R, c.Logs [] (f c)) :
    (modify f : Handler R Unit).Writes fun _ ↦ [] := writes_of_run (fun _ ↦ rfl) h

/-- Other cells than the trajectory and the number of requests are written first. -/
theorem Writes.modify_bind {f : Cells R → Cells R} {y : Unit → Handler R α}
    (htrajectory : ∀ c, (f c).trajectory = c.trajectory)
    (hlatest : ∀ c, (f c).latestLoad = c.latestLoad) (hy : (y ()).Writes said) :
    (modify f >>= y).Writes said :=
  (writes_modify fun c ↦ Cells.logs_nil (htrajectory c) (hlatest c)).bind fun _ ↦ hy

theorem writes_get : (get : Handler R (Cells R)).Writes fun _ ↦ [] := by
  refine ⟨fun h ↦ ?_, nofun, nofun⟩
  cases h
  exact Cells.logs_self _

/-- To put an object somewhere records nothing and is never refused. -/
theorem writes_applyPose (id : ObjectId) (p : Pose R) (kind : ActionKind)
    (context : Option ObjectId) : (applyPose id p kind context).Writes fun _ ↦ [] := by
  refine .modify_bind (fun _ ↦ rfl) (fun _ ↦ rfl) ?_
  refine .modify_bind (fun _ ↦ rfl) (fun _ ↦ rfl) ?_
  refine writes_get.bind fun c ↦ ?_
  split
  next => exact writes_pure rfl
  next v _ =>
    refine ⟨nofun, nofun, fun h ↦ ?_⟩
    cases h
    exact Cells.logs_self _

theorem writes_setAction (a : Action R) : (setAction a).Writes fun _ ↦ [] :=
  writes_modify fun _ ↦ Cells.logs_nil rfl rfl

/-- To say something else of a result keeps a handler honest if the actions told stay the same. -/
theorem Honest.map {told : β → List (Action R)} (hx : x.Honest said) (f : α → β)
    (hf : ∀ a, told (f a) = said a) : (f <$> x).Honest told := by
  refine ⟨fun h ↦ ?_, fun h ↦ ?_, fun h ↦ ?_⟩
  · obtain ⟨a, hrun, rfl⟩ := run_map_eq_ok.1 h
    rw [hf]
    exact hx.done hrun
  · exact hx.refused (run_map_eq_error.1 h)
  · exact hx.broken (run_map_eq_error.1 h)

end Basics

/-! ## Clicks -/

section Clicks

/-- The action in progress is recorded and told. -/
theorem honest_finish : (finish : Handler R _).Honest recordedIn := by
  refine asks_get.bind fun c ↦ ?_
  split
  next => exact honest_refuse _
  next a _ =>
    apply Writes.honest
    exact writes_of_run (fun _ ↦ rfl) fun _ ↦ ⟨rfl, Nat.le_refl 1, rfl⟩

theorem honest_clickEmpty : (clickEmpty : Handler R _).Honest recordedIn := by
  refine asks_loaded.bind fun _ ↦ asks_get.bind fun c ↦ ?_
  split
  next => exact honest_finish
  next =>
    apply Writes.honest
    split
    next => exact writes_pure rfl
    next =>
      refine .modify_bind (fun _ ↦ rfl) (fun _ ↦ rfl) ?_
      exact .modify_bind (fun _ ↦ rfl) (fun _ ↦ rfl) (writes_pure rfl)

theorem honest_choose (kind : ActionKind) : (choose kind : Handler R _).Honest recordedIn := by
  apply Writes.honest
  refine .modify_bind (fun _ ↦ rfl) (fun _ ↦ rfl) ?_
  exact .modify_bind (fun _ ↦ rfl) (fun _ ↦ rfl) (writes_pure rfl)

/-- To give up records nothing. -/
theorem honest_cancel : (cancel : Handler R _).Honest recordedIn := by
  refine asks_get.bind fun c ↦ Writes.honest ?_
  -- The same is left to do whether or not there was a draft to be taken back.
  have hidle (draft : Option (Draft R)) : Writes recordedIn (do
      modify fun c : Cells R => { c with mode := none, stage := .idle, press := none }
      if draft.isSome then
        return [.stepCancelled, .selectionChanged, .renderNeeded]
      else if c.stage.isIdle && c.mode.isNone then
        return []
      else
        return [.selectionChanged, .renderNeeded]) := by
    refine .modify_bind (fun _ ↦ rfl) (fun _ ↦ rfl) ?_
    split
    next => exact writes_pure rfl
    next =>
      split
      next => exact writes_pure rfl
      next => exact writes_pure rfl
  cases c.draft with
  | none => exact hidle none
  | some d => exact .modify_bind (fun _ ↦ rfl) (fun _ ↦ rfl) (hidle (some d))

variable [Scalar R]

theorem honest_toggleLid (kind : ActionKind) (clicked : ObjectId) :
    (toggleLid kind clicked : Handler R _).Honest recordedIn := by
  refine asks_loaded.bind fun t ↦ (asks_ask _ _).bind fun (lid, p) ↦ Writes.honest ?_
  refine (writes_applyPose _ _ _ _).bind fun _ ↦ ?_
  refine .modify_bind (fun _ ↦ rfl) (fun _ ↦ rfl) ?_
  exact .modify_bind (fun _ ↦ rfl) (fun _ ↦ rfl) (writes_pure rfl)

theorem honest_selectTarget (kind : ActionKind) (id : ObjectId) :
    (selectTarget kind id : Handler R _).Honest recordedIn := by
  unfold selectTarget
  split
  next => exact honest_toggleLid kind id
  next =>
    refine asks_loaded.bind fun t ↦ Writes.honest ?_
    refine .modify_bind (fun _ ↦ rfl) (fun _ ↦ rfl) ?_
    exact .modify_bind (fun _ ↦ rfl) (fun _ ↦ rfl) (writes_pure rfl)

theorem honest_selectReference (kind : ActionKind) (target reference : ObjectId) :
    (selectReference kind target reference : Handler R _).Honest recordedIn := by
  unfold selectReference
  split
  next => exact honest_refuse _
  next =>
    refine asks_loaded.bind fun t ↦ (asks_ask _ _).bind fun moving ↦
      (asks_ask _ _).bind fun anchor ↦ (asks_ask _ _).bind fun _ ↦ Writes.honest ?_
    split
    next => exact .modify_bind (fun _ ↦ rfl) (fun _ ↦ rfl) (writes_pure rfl)
    next =>
      refine (writes_applyPose _ _ _ _).bind fun _ ↦ (writes_setAction _).bind fun _ ↦ ?_
      exact .modify_bind (fun _ ↦ rfl) (fun _ ↦ rfl) (writes_pure rfl)

/-- Clicks on objects ask for all that they need before they write. -/
theorem honest_clickObject (id : ObjectId) :
    (clickObject id : Handler R _).Honest recordedIn := by
  refine asks_loaded.bind fun t ↦ (asks_ask _ _).bind fun _ ↦ asks_get.bind fun c ↦ ?_
  split
  next => exact honest_refuse _
  next => exact honest_refuse _
  next kind _ _ => exact honest_selectTarget kind id
  next kind target _ _ => exact honest_selectReference kind target id
  next => exact (writes_pure rfl).honest
  next => exact (writes_pure rfl).honest

/-- Clicks on pixels do, too. -/
theorem honest_click (pixel : Point R) : (click pixel).Honest recordedIn := by
  refine asks_loaded.bind fun t ↦ asks_get.bind fun c ↦ ?_
  split
  next id _ => exact honest_clickObject id
  next => exact honest_clickEmpty

end Clicks

/-! ## The pointer -/

section Pointer

variable [Scalar R]

theorem honest_resize (width height : R) : (resize width height).Honest recordedIn := by
  apply Writes.honest
  exact .modify_bind (fun _ ↦ rfl) (fun _ ↦ rfl) (writes_pure rfl)

theorem honest_pointerDown (pixel : Point R) : (pointerDown pixel).Honest recordedIn := by
  apply Writes.honest
  refine .modify_bind (fun _ ↦ rfl) (fun _ ↦ rfl) (writes_get.bind fun c ↦ ?_)
  split
  next =>
    split
    next =>
      split
      next => exact .modify_bind (fun _ ↦ rfl) (fun _ ↦ rfl) (writes_pure rfl)
      next => exact writes_pure rfl
    next => exact writes_pure rfl
  next => exact writes_pure rfl

/-- A move of the pointer finds the place before it writes. -/
theorem honest_pointerMove (pixel : Point R) : (pointerMove pixel).Honest recordedIn := by
  refine asks_get.bind fun c ↦ ?_
  split
  next =>
    split
    next =>
      refine (asks_ask _ _).bind fun p? ↦ Writes.honest ?_
      split
      next =>
        exact (writes_applyPose _ _ _ _).bind fun _ ↦ (writes_setAction _).bind fun _ ↦
          writes_pure rfl
      next => exact writes_pure rfl
    next => exact (writes_pure rfl).honest
  next => exact (writes_pure rfl).honest

theorem honest_release (press : Option (Point R)) (pixel : Point R) :
    (release press pixel).Honest recordedIn := by
  refine asks_get.bind fun c ↦ ?_
  split
  next =>
    apply Writes.honest
    exact .modify_bind (fun _ ↦ rfl) (fun _ ↦ rfl) (writes_pure rfl)
  next =>
    split
    next =>
      split
      next => exact honest_click pixel
      next => exact (writes_pure rfl).honest
    next => exact (writes_pure rfl).honest

end Pointer

/-! ## Saving, replaying and loading -/

theorem honest_saveRequest : (saveRequest : Handler R _).Honest fun _ ↦ [] := by
  refine asks_get.bind fun c ↦ asks_get.bind fun c' ↦ ?_
  split
  next => exact (writes_pure rfl).honest
  next => exact honest_refuse _

/-- A replayed action is recorded with the pose at which it is told. -/
theorem honest_replay [Scalar R] (a : Action R) : (replay a).Honest fun b ↦ [b] := by
  refine asks_loaded.bind fun t ↦ asks_get.bind fun c ↦ (asks_ask _ _).bind fun p ↦ ?_
  apply Writes.honest
  refine .modify_bind (fun _ ↦ rfl) (fun _ ↦ rfl) ?_
  refine (writes_applyPose _ _ _ _).bind fun _ ↦ ?_
  exact writes_of_run (fun _ ↦ rfl) fun _ ↦ ⟨rfl, Nat.le_refl 1, rfl⟩

end Handler

/-- The table of a bundle is shown from the start. -/
def Cells.showing (c : Cells R) (t : Table R) : Cells R :=
  { c with
    scene := some t.scene
    lids := t.lids
    relations := t.relations
    trajectory := []
    mode := none
    stage := .idle
    draft := none
    press := none }

/-- Only the answer to the latest request counts, and only if it brings a table. -/
theorem Handler.run_completeLoad_eq (c : Cells R) (ticket : LoadTicket)
    (answer : Except CollaboratorError (SceneBundle R)) : (completeLoad ticket answer).run c =
      if ticket.number = c.latestLoad then
        match answer >>= SceneBundle.table with
        | .ok t => .ok .loaded (c.showing t)
        | .error e => .error (.refused (.collaborator e)) c
      else .ok .superseded c := by
  unfold completeLoad
  rw [EStateM.run_bind, EStateM.run_get]
  by_cases hnumber : ticket.number = c.latestLoad
  · simp only [hnumber, ne_eq, not_true_eq_false, if_false, if_true]
    cases answer with
    | error e => rfl
    | ok b =>
      change (install b >>= fun _ ↦ pure LoadOutcome.loaded).run c = match b.table with
        | .ok t => .ok .loaded (c.showing t)
        | .error e => .error (.refused (.collaborator e)) c
      unfold install
      cases b.table <;> rfl
  · simp only [hnumber, ne_eq, not_false_eq_true, if_false, if_true]
    rfl

/-- An answer that forms no scene writes nothing. -/
theorem Handler.eq_of_completeLoad_error {c c' : Cells R} {ticket : LoadTicket}
    {answer : Except CollaboratorError (SceneBundle R)} {h : Halt}
    (hrun : (completeLoad ticket answer).run c = .error h c') : c' = c := by
  rw [run_completeLoad_eq] at hrun
  split at hrun
  next =>
    split at hrun
    next => cases hrun
    next =>
      cases hrun
      rfl
  next => cases hrun

/-! ## Operations -/

/-- The actions that are said to have been recorded. -/
def Outcome.recorded : Outcome R → List (Action R)
  | effects es => recordedIn es
  | replayed a => [a]
  | _ => []

theorem Handler.Honest.effects {x : Handler R (List (Effect R))} (hx : x.Honest recordedIn) :
    (Outcome.effects <$> x).Honest Outcome.recorded := hx.map _ fun _ ↦ rfl

/-- The operation has to do with loading. -/
def Operation.isLoading : Operation R → Bool
  | beginLoad _ | completeLoad _ _ | load _ => true
  | _ => false

/-- Three operations have to do with loading. -/
theorem Operation.isLoading_cases {op : Operation R} (h : op.isLoading) :
    (∃ id, op = .beginLoad id) ∨ (∃ ticket answer, op = .completeLoad ticket answer) ∨
      ∃ b, op = .load b := by
  cases op with
  | beginLoad id => exact .inl ⟨id, rfl⟩
  | completeLoad ticket answer => exact .inr (.inl ⟨ticket, answer, rfl⟩)
  | load b => exact .inr (.inr ⟨b, rfl⟩)
  | _ => cases h

/-- What is left of the cells when an operation has taken what it uses up even if it is refused: a
release takes the press, and loading a bundle takes the number of a request. -/
def Cells.spent (c : Cells R) : Operation R → Cells R
  | .pointerUp _ => { c with press := none }
  | .load _ => { c with latestLoad := c.latestLoad + 1 }
  | _ => c

variable [Scalar R]

/-- Loading apart, operations are honest about what they do with the cells that are left. -/
theorem Operation.exists_honest (op : Operation R) (hop : op.isLoading = false) (c : Cells R) :
    ∃ x : Handler R (Outcome R), x.Honest Outcome.recorded ∧
      op.handler.run c = x.run (c.spent op) := by
  cases op with
  | beginLoad | completeLoad | load => cases hop
  | resize width height => exact ⟨_, (Handler.honest_resize width height).effects, rfl⟩
  | choose kind => exact ⟨_, (Handler.honest_choose kind).effects, rfl⟩
  | click pixel => exact ⟨_, (Handler.honest_click pixel).effects, rfl⟩
  | clickObject id => exact ⟨_, (Handler.honest_clickObject id).effects, rfl⟩
  | clickEmpty => exact ⟨_, Handler.honest_clickEmpty.effects, rfl⟩
  | pointerDown pixel => exact ⟨_, (Handler.honest_pointerDown pixel).effects, rfl⟩
  | pointerMove pixel => exact ⟨_, (Handler.honest_pointerMove pixel).effects, rfl⟩
  | pointerUp pixel => exact ⟨_, (Handler.honest_release c.press pixel).effects, rfl⟩
  | finish => exact ⟨_, Handler.honest_finish.effects, rfl⟩
  | cancel => exact ⟨_, Handler.honest_cancel.effects, rfl⟩
  | requestSave => exact ⟨_, Handler.honest_saveRequest.map Outcome.request fun _ ↦ rfl, rfl⟩
  | completeSave request answer =>
    have hask : (Handler.ask .collaborator answer : Handler R Unit).Honest fun _ ↦ [] :=
      (Handler.asks_ask _ _).honest fun _ ↦ rfl
    exact ⟨_, hask.map (fun _ ↦ Outcome.saved) fun _ ↦ rfl, rfl⟩
  | replay a => exact ⟨_, (Handler.honest_replay a).map Outcome.replayed fun _ ↦ rfl, rfl⟩

namespace Cells

/-- An operation that is refused changes nothing, up to what it uses up. -/
theorem after_of_refused (c : Cells R) (op : Operation R) (e : SessionError)
    (h : c.answer op = .error (.refused e)) : c.after op = c.spent op := by
  have hrun : op.handler.run c = .error (.refused e) (c.after op) := answer_eq_error.1 h
  cases hop : op.isLoading with
  | false =>
    obtain ⟨x, hx, hspent⟩ := op.exists_honest hop c
    exact hx.refused (hspent.symm.trans hrun)
  | true =>
    obtain ⟨id, rfl⟩ | ⟨ticket, answer, rfl⟩ | ⟨b, rfl⟩ := Operation.isLoading_cases hop
    · cases hrun
    · exact Handler.eq_of_completeLoad_error (Handler.run_map_eq_error.1 hrun)
    · -- Loading a bundle makes a request and answers it.
      have hload : (Handler.completeLoad ⟨c.latestLoad + 1, b.scene.taskId⟩ (.ok b)).run
          (c.spent (.load b)) = .error (.refused e) (c.after (.load b)) :=
        Handler.run_map_eq_error.1 hrun
      exact Handler.eq_of_completeLoad_error hload

/-- The cup is to be put in something, and it is not put in itself. -/
theorem after_of_refused_same_object :
    let c := (start Kitchen.config).run
      [Kitchen.loadOpen, .choose .putIn, .clickObject "cup", .pointerDown ⟨3, 3⟩]
    c.answer (.clickObject "cup") =
        .error (.refused (.precondition (.sameObject .putIn "cup"))) ∧
      c.draft.isSome ∧ c.press.isSome ∧ c.after (.clickObject "cup") = c := by
  intro c
  have hrefused : c.answer (.clickObject "cup") =
      .error (.refused (.precondition (.sameObject .putIn "cup"))) := by rfl
  exact ⟨hrefused, rfl, rfl, c.after_of_refused _ _ hrefused⟩

end Cells

end Rearrangement
