import Rearrangement.Proofs.Table.Offer

/-!
# Tables whose coordinates are numbers

An object is measured if it is somewhere, its coordinates being numbers, and its extents are finite.
On a table of measured objects all places that actions lead to are numbers (`Replays.measured`), and
so the objects are measured again afterwards (`Measured.carry`).

## Main statements

* `World.isNumber_clampMoved?`: what is kept inside bounds is a number.
* `Table.Replays.measured`: so is where replay puts an object.
* `Table.Measured.carry`: so the table is measured again.

Coordinates may be infinite, but extents may not: a place is a coordinate of one object and half an
extent of another, and two infinite numbers may add up to none.
-/

namespace Rearrangement

open Scalar

variable {R : Type}

/-- All components are as `P` says. -/
def Vec3.All (P : R → Prop) (v : Vec3 R) : Prop := P v.x ∧ P v.y ∧ P v.z

/-- All coordinates are as `P` says. -/
def Pose.All (P : R → Prop) (p : Pose R) : Prop := p.position.All P ∧ P p.orientation

instance (P : R → Prop) [DecidablePred P] (v : Vec3 R) : Decidable (v.All P) :=
  inferInstanceAs (Decidable (_ ∧ _ ∧ _))

instance (P : R → Prop) [DecidablePred P] (p : Pose R) : Decidable (p.All P) :=
  inferInstanceAs (Decidable (_ ∧ _))

theorem Pose.All.imp {P Q : R → Prop} {p : Pose R} (h : p.All P) (hPQ : ∀ x, P x → Q x) :
    p.All Q := by
  obtain ⟨⟨hx, hy, hz⟩, horientation⟩ := h
  exact ⟨⟨hPQ _ hx, hPQ _ hy, hPQ _ hz⟩, hPQ _ horientation⟩

variable [Scalar R]

/-- The object is somewhere, and has an extent. -/
structure SceneObject.Measured (o : SceneObject R) : Prop where
  pose : o.pose.All IsNumber
  size : o.size.All IsFinite

/-- All objects are somewhere. -/
def Table.Measured (t : Table R) : Prop := ∀ o ∈ t.scene.objects, o.Measured

/-- To carry an action out keeps the numbers of a table numbers. -/
theorem Table.Measured.carry {t : Table R} {a : Action R} (h : t.Measured)
    (ha : a.pose.All IsNumber) : (t.carry a).Measured := by
  intro o ho
  rcases Scene.mem_modify ho with ho | ⟨o', ho', rfl⟩
  · exact h o ho
  · exact ⟨ha, (h o' ho').size⟩

/-! ## Where actions lead -/

section Places

variable [RangedScalar R] {w : World R} {o c : SceneObject R}

theorem SceneObject.Measured.isNumber_top (h : o.Measured) : IsNumber o.top :=
  RangedScalar.isNumber_add h.pose.1.2.2 (RangedScalar.isFinite_half h.size.2.2)

theorem SceneObject.Measured.isNumber_bottom (h : o.Measured) : IsNumber o.bottom :=
  RangedScalar.isNumber_sub h.pose.1.2.2 (RangedScalar.isFinite_half h.size.2.2)

theorem SceneObject.Measured.all_puttingOn (ho : o.Measured) (hc : c.Measured) :
    (o.puttingOn c).All IsNumber := by
  obtain ⟨⟨hx, hy, -⟩, -⟩ := hc.pose
  have hz := RangedScalar.isNumber_add hc.isNumber_top (RangedScalar.isFinite_half ho.size.2.2)
  exact ⟨⟨hx, hy, hz⟩, RangedScalar.isNumber_zero⟩

theorem SceneObject.Measured.all_puttingIn (ho : o.Measured) (hc : c.Measured) :
    (o.puttingIn c).All IsNumber := by
  obtain ⟨⟨hx, hy, -⟩, -⟩ := hc.pose
  have hz := RangedScalar.isNumber_add hc.isNumber_bottom (RangedScalar.isFinite_half ho.size.2.2)
  exact ⟨⟨hx, hy, hz⟩, RangedScalar.isNumber_zero⟩

theorem SceneObject.Measured.all_closing (ho : o.Measured) (hc : c.Measured) :
    (o.closing c).All IsNumber := by
  obtain ⟨⟨hx, hy, -⟩, -⟩ := hc.pose
  have hz := RangedScalar.isNumber_add hc.isNumber_top (RangedScalar.isFinite_half ho.size.2.2)
  exact ⟨⟨hx, hy, hz⟩, ho.pose.2⟩

theorem SceneObject.Measured.all_opening (ho : o.Measured) (hc : c.Measured) :
    (o.opening c).All IsNumber := by
  obtain ⟨⟨hx, hy, -⟩, -⟩ := hc.pose
  obtain ⟨hwidth, hdepth, -⟩ := hc.size
  refine ⟨⟨?_, ?_, ?_⟩, ho.pose.2⟩
  · exact RangedScalar.isNumber_sub hx (RangedScalar.isFinite_parts hdepth).1
  · exact RangedScalar.isNumber_sub hy (RangedScalar.isFinite_parts hwidth).2
  · exact RangedScalar.isNumber_add hc.isNumber_bottom (RangedScalar.isFinite_half ho.size.2.2)

variable [LawfulScalar R]

omit [RangedScalar R] in
/-- A clamped point has numbers for coordinates. -/
theorem World.isNumber_clampMoved? {p q r : Point R} (hx : IsNumber q.x) (hy : IsNumber q.y)
    (h : w.clampMoved? p q = some r) : IsNumber r.x ∧ IsNumber r.y := by
  obtain ⟨inside, hinside, rfl⟩ := Option.map_eq_some_iff.1 h
  obtain ⟨hinx, hiny⟩ := World.clamp?_eq_some.1 hinside
  have hinx := isNumber_of_clamp? hx hinx
  have hiny := isNumber_of_clamp? hy hiny
  refine ⟨?_, ?_⟩
  · dsimp only
    split <;> assumption
  · dsimp only
    split <;> assumption

/-- Objects that are somewhere are put somewhere. -/
theorem Table.Replays.measured {t : Table R} {a : Action R} {p : Pose R} (h : t.Replays w a p)
    (ht : t.Measured) (ha : a.pose.All IsNumber) : p.All IsNumber := by
  cases h with
  | toggle _ _ _ _ htoggle =>
    obtain ⟨c, l, hc, -, hl, -, rfl⟩ := lidToggle_eq_ok.1 htoggle
    have hc := ht c (Scene.mem_of_get? hc)
    have hl := ht l (Scene.mem_of_get? hl)
    split
    · exact hl.all_opening hc
    · exact hl.all_closing hc
  | put _ ho _ _ hanchor =>
    have ho := ht _ (Scene.mem_of_get? ho)
    have hanchor := ht _ (Scene.mem_of_get? hanchor)
    split
    · exact ho.all_puttingIn hanchor
    · exact ho.all_puttingOn hanchor
  | drag _ _ _ hq =>
    obtain ⟨⟨hx, hy, hz⟩, horientation⟩ := ha
    obtain ⟨hqx, hqy⟩ := World.isNumber_clampMoved? hx hy hq
    exact ⟨⟨hqx, hqy, hz⟩, horientation⟩
  | rotate _ ho => exact ⟨(ht _ (Scene.mem_of_get? ho)).pose.1, ha.2⟩

end Places

end Rearrangement
