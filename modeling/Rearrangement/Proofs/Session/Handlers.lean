import Rearrangement.Proofs.Table.Offer
import Rearrangement.Session.Run

/-!
# What the handlers do

A handler that goes through has found what is said of it here, has left the session as is said here,
and tells these effects.  What all operations keep is shown case by case of this, and the handlers
need not be opened for it.

## Main statements

There is one lemma for each handler, named after it: `finish_cases`, `clickEmpty_cases`,
`toggleLid_cases`, `selectTarget_cases`, `selectReference_cases`, `clickObject_cases`,
`click_cases`, `pointerDown_cases`, `pointerMove_cases`, `pointerUp_cases` and `completeLoad_cases`.
Most of them are inversions: from a result that is a success they get back what has been asked, with
the answers, and the session that is left.  Refusals have no cases there, for a handler that is
refused returns no session.  A press and a release of the pointer always leave one, so for these the
cases are all that can come of them.
-/

namespace Rearrangement

open Scalar

variable {R : Type}

namespace Session

variable {s s' : Session R} {es : List (Effect R)} {t : Table R} {kind : ActionKind}
  {target id : ObjectId} {before : Table R} {pixel : Point R}

theorem loaded_eq_ok : s.loaded = .ok t ↔ s.table = some t := by
  unfold loaded
  split <;> simp_all

/-! ## Recording -/

/-- What finishing comes to when it succeeds; the lemmas below say so of the other handlers. -/
theorem finish_cases (h : s.finish = .ok (s', es)) : ∃ a, s.phase.action = some a ∧
    s' = { s with phase := .idle, trajectory := s.trajectory ++ [a], press := none } ∧
      es = [.stepCommitted a, .selectionChanged, .renderNeeded] := by
  unfold finish at h
  split at h
  next => cases h
  next a ha =>
    obtain ⟨rfl, rfl⟩ := Prod.mk.inj (Except.ok.inj h)
    exact ⟨a, ha, rfl, rfl⟩

theorem clickEmpty_cases (h : s.clickEmpty = .ok (s', es)) : s.finish = .ok (s', es) ∨
    s.phase.action = none ∧ (s' = s ∧ es = [] ∨ ∃ kind, s.phase.mode = some kind ∧
      s' = { s with phase := .selectTarget kind } ∧ es = selectionEffects) := by
  obtain ⟨_, -, h⟩ := bind_eq_ok.1 h
  split at h
  next => exact .inl h
  next haction =>
    refine .inr ⟨by simpa using haction, ?_⟩
    split at h
    all_goals obtain ⟨rfl, rfl⟩ := Prod.mk.inj (Except.ok.inj h)
    next => exact .inl ⟨rfl, rfl⟩
    next kind hmode _ => exact .inr ⟨kind, hmode, rfl, rfl⟩

variable [Scalar R]

/-! ## Clicks -/

/-- Opening or closing is an action with the pose that the lid and its container give. -/
theorem toggleLid_cases (h : s.toggleLid t kind id = .ok (s', es)) : ∃ container lid pose,
    container = (t.lids.containerFor? id).getD id ∧ t.lidToggle kind container = .ok (lid, pose) ∧
      s' = { s with
        table := some (t.place kind lid pose (some container))
        phase := .awaitCommit kind container none t ⟨kind, lid, some container, pose⟩ } ∧
      es = selectionEffects := by
  obtain ⟨⟨lid, pose⟩, htoggle, h⟩ := bind_eq_ok.1 h
  obtain ⟨rfl, rfl⟩ := Prod.mk.inj (Except.ok.inj h)
  exact ⟨_, lid, pose, rfl, htoggle, rfl, rfl⟩

theorem selectTarget_cases (h : s.selectTarget t kind id = .ok (s', es)) :
    kind.isLidToggle ∧ s.toggleLid t kind id = .ok (s', es) ∨
      es = selectionEffects ∧
        (kind.needsReference ∧ s' = { s with phase := .selectReference kind id t } ∨
          ¬kind.isLidToggle ∧ ¬kind.needsReference ∧
            s' = { s with phase := .manipulate kind id none none ⟨t, none⟩ }) := by
  unfold selectTarget at h
  split at h
  next hkind => exact .inl ⟨hkind, h⟩
  next hkind =>
    split at h
    all_goals obtain ⟨rfl, rfl⟩ := Prod.mk.inj (Except.ok.inj h)
    next hneeds => exact .inr ⟨rfl, .inl ⟨hneeds, rfl⟩⟩
    next hneeds => exact .inr ⟨rfl, .inr ⟨hkind, hneeds, rfl⟩⟩

theorem selectReference_cases (h : s.selectReference t kind target before id = .ok (s', es)) :
    es = selectionEffects ∧ target ≠ id ∧ ∃ moving anchor, t.scene.get? target = some moving ∧
      t.scene.get? id = some anchor ∧ t.checkReference kind anchor = .ok () ∧
        (kind = .putNear ∧
            s' = { s with phase := .manipulate kind target (some id) none ⟨before, none⟩ } ∨
          kind ≠ .putNear ∧ ∃ pose,
            pose = (if kind = .putIn then moving.puttingIn anchor else moving.puttingOn anchor) ∧
              s' = { s with
                table := some (t.place kind target pose (some id))
                phase := .awaitCommit kind target (some id) before
                  ⟨kind, target, some id, pose⟩ }) := by
  unfold selectReference at h
  obtain ⟨hne, h⟩ := unless_eq_ok.1 h
  obtain ⟨moving, hmoving, h⟩ := bind_eq_ok.1 h
  obtain ⟨anchor, hanchor, h⟩ := bind_eq_ok.1 h
  obtain ⟨⟨⟩, hcheck, h⟩ := bind_eq_ok.1 h
  rw [Table.require_eq_ok] at hmoving hanchor
  by_cases hnear : kind = .putNear
  · rw [if_pos hnear] at h
    obtain ⟨rfl, rfl⟩ := Prod.mk.inj (Except.ok.inj h)
    exact ⟨rfl, hne, moving, anchor, hmoving, hanchor, hcheck, .inl ⟨hnear, rfl⟩⟩
  · rw [if_neg hnear] at h
    obtain ⟨rfl, rfl⟩ := Prod.mk.inj (Except.ok.inj h)
    exact ⟨rfl, hne, moving, anchor, hmoving, hanchor, hcheck, .inr ⟨hnear, _, rfl, rfl⟩⟩

theorem clickObject_cases (h : s.clickObject id = .ok (s', es)) : s' = s ∧ es = [] ∨
    ∃ t x, s.table = some t ∧ t.scene.get? id = some x ∧
      ((∃ kind, s.phase = .selectTarget kind ∧ s.selectTarget t kind id = .ok (s', es)) ∨
        ∃ kind target before, s.phase = .selectReference kind target before ∧
          s.selectReference t kind target before id = .ok (s', es)) := by
  obtain ⟨t, htable, h⟩ := bind_eq_ok.1 h
  obtain ⟨x, hx, h⟩ := bind_eq_ok.1 h
  rw [loaded_eq_ok] at htable
  rw [Table.require_eq_ok] at hx
  split at h
  next => cases h
  next kind hphase => exact .inr ⟨t, x, htable, hx, .inl ⟨kind, hphase, h⟩⟩
  next kind target before hphase =>
    exact .inr ⟨t, x, htable, hx, .inr ⟨kind, target, before, hphase, h⟩⟩
  all_goals
    obtain ⟨rfl, rfl⟩ := Prod.mk.inj (Except.ok.inj h)
    exact .inl ⟨rfl, rfl⟩

theorem click_cases (h : s.click pixel = .ok (s', es)) :
    s.clickEmpty = .ok (s', es) ∨ ∃ id, s.clickObject id = .ok (s', es) := by
  obtain ⟨hit, -, h⟩ := bind_eq_ok.1 h
  cases hit with
  | none => exact .inl h
  | some id => exact .inr ⟨id, h⟩

/-! ## The pointer -/

theorem pointerDown_cases (s : Session R) (pixel : Point R) :
    s.pointerDown pixel = ({ s with press := some pixel }, []) ∨
      ∃ kind target reference step t x, s.phase = .manipulate kind target reference none step ∧
        s.table = some t ∧ t.scene.get? target = some x ∧ kind.isDrag ∧
          s.pointerDown pixel = ({ s with
            press := some pixel
            phase := .manipulate kind target reference (some ⟨pixel, x.position.flat⟩) step },
            [.setCursor "grabbing"]) := by
  unfold pointerDown
  split
  next kind target reference step hphase =>
    split
    next x hx =>
      obtain ⟨t, htable, hx⟩ := Option.bind_eq_some_iff.1 hx
      split
      next hheld =>
        exact .inr ⟨kind, target, reference, step, t, x, hphase, htable, hx, hheld.1, rfl⟩
      next => exact .inl rfl
    next => exact .inl rfl
  next => exact .inl rfl

/-- A move of the pointer does nothing or places the object that is held. -/
theorem pointerMove_cases (h : s.pointerMove pixel = .ok (s', es)) : s' = s ∧ es = [] ∨
    ∃ kind target reference grip step t x p,
      s.phase = .manipulate kind target reference grip step ∧ s.table = some t ∧
        t.scene.get? target = some x ∧ followed x kind grip pixel s.viewport = .ok (some p) ∧
          s' = { s with
            table := some (t.place kind target p reference)
            phase := .manipulate kind target reference grip
              { step with action := some ⟨kind, target, reference, p⟩ } } ∧
          es = [.renderNeeded] := by
  unfold pointerMove at h
  split at h
  next kind target reference grip step t hphase htable =>
    split at h
    next x hx =>
      obtain ⟨p?, hp, h⟩ := bind_eq_ok.1 h
      cases p? with
      | none =>
        obtain ⟨rfl, rfl⟩ := Prod.mk.inj (Except.ok.inj h)
        exact .inl ⟨rfl, rfl⟩
      | some p =>
        obtain ⟨rfl, rfl⟩ := Prod.mk.inj (Except.ok.inj h)
        exact .inr ⟨kind, target, reference, grip, step, t, x, p, hphase, htable, hx, hp, rfl, rfl⟩
    next =>
      obtain ⟨rfl, rfl⟩ := Prod.mk.inj (Except.ok.inj h)
      exact .inl ⟨rfl, rfl⟩
  next =>
    obtain ⟨rfl, rfl⟩ := Prod.mk.inj (Except.ok.inj h)
    exact .inl ⟨rfl, rfl⟩

/-- The pointer lets go, and that is all, or it clicks. -/
theorem pointerUp_cases (s : Session R) (pixel : Point R) :
    (∃ es, (es = [] ∨ es = [.setCursor "default", .renderNeeded]) ∧
        s.pointerUp pixel = (s.release, .ok es)) ∨
      (∃ e, s.pointerUp pixel = (s.release, .error e)) ∨
        s.phase.grip.isSome = false ∧ ∃ s' es, s.release.click pixel = .ok (s', es) ∧
          s.pointerUp pixel = (s', .ok es) := by
  unfold pointerUp
  split
  next => exact .inl ⟨_, .inr rfl, rfl⟩
  next hgrip =>
    split
    next =>
      split
      next =>
        dsimp only
        split
        next s' es hclick =>
          exact .inr (.inr ⟨Bool.eq_false_iff.2 hgrip, s', es, hclick, rfl⟩)
        next e _ => exact .inr (.inl ⟨e, rfl⟩)
      next => exact .inl ⟨_, .inl rfl, rfl⟩
    next => exact .inl ⟨_, .inl rfl, rfl⟩

/-! ## Loading -/

omit [Scalar R] in
/-- An answer is superseded or brings a table. -/
theorem completeLoad_cases {ticket : LoadTicket}
    {answer : Except CollaboratorError (SceneBundle R)} {o : LoadOutcome}
    (h : s.completeLoad ticket answer = .ok (s', o)) : s' = s ∧ o = .superseded ∨
      ∃ b t, answer = .ok b ∧ b.table = .ok t ∧ s' = s.install t ∧ o = .loaded := by
  unfold completeLoad at h
  split at h
  next =>
    obtain ⟨rfl, rfl⟩ := Prod.mk.inj (Except.ok.inj h)
    exact .inl ⟨rfl, rfl⟩
  next =>
    obtain ⟨b, hb, h⟩ := bind_eq_ok.1 h
    obtain ⟨t, ht, h⟩ := bind_eq_ok.1 h
    obtain ⟨rfl, rfl⟩ := Prod.mk.inj (Except.ok.inj h)
    exact .inr ⟨b, t, hb, ht, rfl, rfl⟩

end Session

end Rearrangement
