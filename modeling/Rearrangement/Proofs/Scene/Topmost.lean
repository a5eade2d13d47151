import Mathlib.Data.List.Basic
import Mathlib.Data.List.Induction
import Rearrangement.Cells.Run
import Rearrangement.Proofs.Binary64.Dot
import Rearrangement.Proofs.Session.Rollback

/-!
# What a pixel shows

Of all objects whose footprint contains a point, the one on top is the highest, and of equally high
ones the one that is drawn last (`Scene.OnTop`).  Looking through the objects in the order in which
they are drawn finds it (`foldl_upper_eq_some`), however many there are and wherever they overlap.
A click is then a click on that object, and one beside all of them a click on nothing
(`click_onTop`).

## Main statements

* `foldl_upper_eq_some`: the search finds an object exactly if it is on top.
* `topmost?_eq_some`, `hit?_eq_some`, `hit?_eq_none`: what is at a point and what a pixel shows.
* `Handler.run_click_eq`: a click is one on what its pixel shows.
* `click_onTop`: both, for any cells.

Heights have to be numbers, for others do not compare and the search would go by the order of the
list alone.
-/

namespace Rearrangement

open Scalar

variable {R : Type} [Scalar R]

/-- Of the objects whose footprint contains the point, this one is on top: no other is higher, and
none that is drawn later is as high. -/
def Scene.OnTop (s : Scene R) (p : Point R) (o : SceneObject R) : Prop :=
  ∃ below above, s.objects = below ++ o :: above ∧ o.footprint.contains p = true ∧
    (∀ b ∈ below, b.footprint.contains p = true → b.position.z ≤ o.position.z) ∧
      ∀ b ∈ above, b.footprint.contains p = true → b.position.z < o.position.z

/-! ## Looking through objects -/

section Objects

variable {o b : SceneObject R} {os : List (SceneObject R)}

theorem upper_isSome (best : Option (SceneObject R)) (o : SceneObject R) :
    (upper best o).isSome := by
  unfold upper
  split
  · split <;> rfl
  · rfl

theorem foldl_upper_eq_none : os.foldl upper none = none ↔ os = [] := by
  rcases os.eq_nil_or_concat' with rfl | ⟨os, o, rfl⟩
  · exact iff_of_true rfl rfl
  · rw [List.foldl_concat]
    refine iff_of_false (fun hnone ↦ ?_) (List.append_ne_nil_of_right_ne_nil os nofun)
    have hsome := upper_isSome (os.foldl upper none) o
    rw [hnone] at hsome
    cases hsome

/-- An object stays on top as long as those that follow are lower. -/
theorem foldl_upper_of_lt (h : ∀ b ∈ os, b.position.z < o.position.z) :
    os.foldl upper (some o) = some o := by
  induction os with
  | nil => rfl
  | cons b os ih =>
    obtain ⟨hb, hos⟩ := List.forall_mem_cons.1 h
    rw [List.foldl_cons, upper, if_pos hb, ih hos]

variable [LawfulScalar R]

/-- The object found on top is a highest one, and those that follow it are lower. -/
theorem exists_of_foldl_upper (hnumbers : ∀ b ∈ os, IsNumber b.position.z)
    (h : os.foldl upper none = some o) : ∃ below above, os = below ++ o :: above ∧
      (∀ b ∈ below, b.position.z ≤ o.position.z) ∧ ∀ b ∈ above, b.position.z < o.position.z := by
  -- what was on top before the last object stays there, or all objects are below the last one
  induction os using List.reverseRecOn generalizing o with
  | nil => cases h
  | append_singleton os x ih =>
    obtain ⟨hos, hx⟩ := List.forall_mem_append.1 hnumbers
    have hx : IsNumber x.position.z := hx x List.mem_cons_self
    rw [List.foldl_concat] at h
    cases hbest : os.foldl upper none with
    | none =>
      obtain rfl := foldl_upper_eq_none.1 hbest
      obtain rfl : x = o := Option.some.inj h
      exact ⟨[], [], rfl, nofun, nofun⟩
    | some b =>
      obtain ⟨below, above, rfl, hbelow, habove⟩ := ih hos hbest
      rw [hbest, upper] at h
      split at h
      next hlt =>
        obtain rfl := Option.some.inj h
        refine ⟨below, above ++ [x], by simp, hbelow, fun c hc ↦ ?_⟩
        rcases List.mem_append.1 hc with hc | hc
        · exact habove c hc
        · rwa [List.mem_singleton.1 hc]
      next hnot =>
        obtain rfl := Option.some.inj h
        have hb : IsNumber b.position.z := hos b (by simp)
        have hle : b.position.z ≤ x.position.z := le_of_not_lt hx hb hnot
        refine ⟨below ++ b :: above, [], rfl, fun c hc ↦ ?_, nofun⟩
        rcases List.mem_append.1 hc with hc | hc
        · exact LawfulScalar.le_trans (hbelow c hc) hle
        · rcases List.mem_cons.1 hc with rfl | hc
          · exact hle
          · exact LawfulScalar.le_trans (LawfulScalar.lt_iff_le_not_ge.1 (habove c hc)).1 hle

/-- The search by height gives the last of the highest objects.  The induction is from the end of
the list, where the candidate found so far is compared with one more object. -/
theorem foldl_upper_eq_some (hnumbers : ∀ b ∈ os, IsNumber b.position.z) :
    os.foldl upper none = some o ↔ ∃ below above, os = below ++ o :: above ∧
      (∀ b ∈ below, b.position.z ≤ o.position.z) ∧ ∀ b ∈ above, b.position.z < o.position.z := by
  refine ⟨exists_of_foldl_upper hnumbers, ?_⟩
  rintro ⟨below, above, rfl, hbelow, habove⟩
  obtain ⟨hnumbers, -⟩ := List.forall_mem_append.1 hnumbers
  have hreached : upper (below.foldl upper none) o = some o := by
    cases hbest : below.foldl upper none with
    | none => rfl
    | some b =>
      obtain ⟨below', above', rfl, -⟩ := exists_of_foldl_upper hnumbers hbest
      exact if_neg (not_lt_of_le (hbelow b (by simp)))
  rw [List.foldl_append, List.foldl_cons, hreached, foldl_upper_of_lt habove]

end Objects

/-! ## Hits -/

namespace Scene

variable {s : Scene R} {p pixel : Point R} {v : Viewport R} {o : SceneObject R} {id : ObjectId}

theorem topmost?_eq_none :
    s.topmost? p = none ↔ ∀ o ∈ s.objects, o.footprint.contains p = false := by
  rw [topmost?, foldl_upper_eq_none, List.filter_eq_nil_iff]
  simp

/-- Nothing is hit where no footprint contains the point. -/
theorem hit?_eq_none :
    s.hit? v pixel = none ↔ ∀ o ∈ s.objects, o.footprint.contains (v.toWorld pixel) = false := by
  rw [hit?, Option.map_eq_none_iff, topmost?_eq_none]

variable [LawfulScalar R]

/-- The object found at a point is the one on top. -/
theorem topmost?_eq_some (hheights : ∀ o ∈ s.objects, IsNumber o.position.z) :
    s.topmost? p = some o ↔ s.OnTop p o := by
  unfold topmost? OnTop
  rw [foldl_upper_eq_some fun b hb ↦ hheights b (List.mem_filter.1 hb).1]
  constructor
  · rintro ⟨below, above, hobjects, hbelow, habove⟩
    obtain ⟨below', rest, hsplit, rfl, hrest⟩ := List.filter_eq_append_iff.1 hobjects
    obtain ⟨skipped, above', rfl, hskipped, ho, rfl⟩ := List.filter_eq_cons_iff.1 hrest
    refine ⟨below' ++ skipped, above', by rw [hsplit, List.append_assoc], ho, fun b hb hp ↦ ?_,
      fun b hb hp ↦ habove b (List.mem_filter.2 ⟨hb, hp⟩)⟩
    rcases List.mem_append.1 hb with hb | hb
    · exact hbelow b (List.mem_filter.2 ⟨hb, hp⟩)
    · exact absurd hp (hskipped b hb)
  · rintro ⟨below, above, hobjects, ho, hbelow, habove⟩
    refine ⟨below.filter (·.footprint.contains p), above.filter (·.footprint.contains p), ?_,
      fun b hb ↦ ?_, fun b hb ↦ ?_⟩
    · rw [hobjects, List.filter_append, List.filter_cons, if_pos ho]
    · exact hbelow b (List.mem_filter.1 hb).1 (List.mem_filter.1 hb).2
    · exact habove b (List.mem_filter.1 hb).1 (List.mem_filter.1 hb).2

/-- So is the one that is hit at a pixel. -/
theorem hit?_eq_some (hheights : ∀ o ∈ s.objects, IsNumber o.position.z) :
    s.hit? v pixel = some id ↔ ∃ o, s.OnTop (v.toWorld pixel) o ∧ o.id = id := by
  simp only [hit?, Option.map_eq_some_iff, topmost?_eq_some hheights]

omit [LawfulScalar R] in
theorem OnTop.mem (h : s.OnTop p o) : o ∈ s.objects := by
  obtain ⟨below, above, hobjects, -⟩ := h
  simp [hobjects]

omit [LawfulScalar R] in
theorem OnTop.contains (h : s.OnTop p o) : o.footprint.contains p = true := by
  obtain ⟨-, -, -, ho, -⟩ := h
  exact ho

end Scene

/-! ## Clicks -/

/-- A click asks what its pixel shows and goes on as if that had been named. -/
theorem Handler.run_click_eq {c : Cells R} {s : Scene R} (hs : c.scene = some s)
    (pixel : Point R) : (Handler.click pixel).run c =
      match s.hit? c.viewport pixel with
      | some id => (Handler.clickObject id).run c
      | none => Handler.clickEmpty.run c := by
  have htable : c.table = some ⟨s, c.lids, c.relations⟩ := by
    rw [Cells.table, hs]
    rfl
  simp only [Handler.click, Handler.loaded, EStateM.run_bind, EStateM.run_get, htable,
    EStateM.run_pure]
  cases s.hit? c.viewport pixel <;> rfl

namespace Cells

/-- If no height is anything but a number, a pixel shows the object on top of all that contain its
point, and none exactly if none does.  To click at the pixel is to click on that object, or on
nothing. -/
theorem click_onTop [LawfulScalar R] (s : Scene R)
    (hheights : ∀ o ∈ s.objects, IsNumber o.position.z) (v : Viewport R) (pixel : Point R) :
    (s.hit? v pixel = none ↔
        ∀ o ∈ s.objects, o.footprint.contains (v.toWorld pixel) = false) ∧
      (∀ id, s.hit? v pixel = some id ↔ ∃ o, s.OnTop (v.toWorld pixel) o ∧ o.id = id) ∧
      ∀ c : Cells R, c.scene = some s → c.viewport = v →
        ((∀ o ∈ s.objects, o.footprint.contains (v.toWorld pixel) = false) →
          (Operation.click pixel).handler.run c = Operation.clickEmpty.handler.run c) ∧
        ∀ o, s.OnTop (v.toWorld pixel) o →
          (Operation.click pixel).handler.run c = (Operation.clickObject o.id).handler.run c := by
  refine ⟨Scene.hit?_eq_none, fun id ↦ Scene.hit?_eq_some hheights, ?_⟩
  rintro c hs rfl
  constructor
  · intro hnone
    change (Outcome.effects <$> Handler.click pixel).run c =
      (Outcome.effects <$> Handler.clickEmpty).run c
    rw [Handler.run_map, Handler.run_map, Handler.run_click_eq hs, Scene.hit?_eq_none.2 hnone]
  · intro o ho
    change (Outcome.effects <$> Handler.click pixel).run c =
      (Outcome.effects <$> Handler.clickObject o.id).run c
    rw [Handler.run_map, Handler.run_map, Handler.run_click_eq hs,
      (Scene.hit?_eq_some hheights).2 ⟨o, ho, rfl⟩]

/-- Like the pea, and in its place. -/
def lentil : SceneObject Float := { Kitchen.pea with id := "lentil", name := "lentil" }

/-- The pea, the lentil and a crumb below them, in the order in which they are drawn. -/
def heap : Scene Float :=
  ⟨"kitchen", "kitchen.png", [Kitchen.pea, lentil, ⟨"crumb", "crumb", .item, ⟨0, 0, 0⟩, 0,
    ⟨0, 0, 0⟩, none⟩]⟩

/-- A click on the heap chooses the lentil, which is as high as the pea and drawn after it. -/
theorem click_onTop_lentil :
    let c := (start Kitchen.config).run [Kitchen.load heap.objects [] .empty, .choose .move]
    (c.scene = some heap ∧ ∀ o ∈ heap.objects, IsNumber o.position.z) ∧
      heap.hit? c.viewport ⟨30, 40⟩ = some "lentil" ∧
        (c.after (.click ⟨30, 40⟩)).stage = .manipulate "lentil" none none := by
  intro c
  have hheights : ∀ o ∈ heap.objects, IsNumber o.position.z := by decide +kernel
  have hcontains : lentil.footprint.contains (c.viewport.toWorld ⟨30, 40⟩) = true :=
    SceneObject.contains_footprint rfl rfl rfl rfl _
  have htop : heap.OnTop (c.viewport.toWorld ⟨30, 40⟩) lentil := by
    refine ⟨[_], [_], rfl, hcontains, fun b hb _ ↦ ?_, fun b hb _ ↦ ?_⟩
    all_goals
      rw [List.mem_singleton.1 hb]
      decide +kernel
  obtain ⟨-, hhit, hclick⟩ := click_onTop heap hheights c.viewport ⟨30, 40⟩
  refine ⟨⟨rfl, hheights⟩, (hhit "lentil").2 ⟨_, htop, rfl⟩, ?_⟩
  rw [after, (hclick c rfl rfl).2 _ htop]
  rfl

end Cells

end Rearrangement
