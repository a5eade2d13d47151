import Rearrangement.Binary64
import Rearrangement.Session.Run

/-!
# Objects without extent

The circular functions of doubles are not known to logic, and so the footprint of an object is not
either.  An exception is an object without extent at the origin of the table: whatever the functions
give, the products with its size are zeros or no numbers (`null_mul`), and so its footprint contains
every point (`contains_footprint`).  The pointer takes hold of such an object wherever it is pressed
(`run_pointerDown`), and runs that drag it can be computed.

## Main statements

* `null_mul`, `null_sub`, `null_add`: what is zero or no number stays so.
* `Footprint.contains_of_null`: corners that have no place contain every point.
* `SceneObject.contains_footprint`: so does the footprint of an object without extent.
* `run_pointerDown`: such an object is taken wherever the pointer is pressed.
-/

namespace Rearrangement.Binary64

open Float.Model (UnpackedFloat Format)

/-- Neither positive nor negative. -/
def Null (x : Float) : Prop := x = 0 ∨ x = -0 ∨ x = nan

instance (x : Float) : Decidable (Null x) := inferInstanceAs (Decidable (_ ∨ _))

variable {x y : Float}

theorem null_pack {u : UnpackedFloat} (h : (∃ s, u = .zero s) ∨ u = .notANumber) :
    Null (Float.ofModel (.pack u)) := by
  rcases h with ⟨s, rfl⟩ | rfl
  · cases s <;> decide +kernel
  · decide +kernel

/-- The value of such a double is a zero or no number. -/
theorem unpack_of_null (hx : Null x) :
    (∃ s, x.toModel.unpack = .zero s) ∨ x.toModel.unpack = .notANumber := by
  rcases hx with rfl | rfl | rfl
  · exact .inl ⟨.positive, rfl⟩
  · exact .inl ⟨.negative, rfl⟩
  · exact .inr rfl

/-- Zero times anything is zero or no number. -/
theorem null_mul (hx : Null x) (y : Float) : Null (x * y) := by
  change Null (Float.ofModel (.pack
    (UnpackedFloat.mul .binary64 x.toModel.unpack y.toModel.unpack)))
  refine null_pack ?_
  rcases unpack_of_null hx with ⟨s, h⟩ | h
  · rw [h]
    rcases y.toModel.unpack with s' | _ | s' | ⟨s', m, e, hm⟩
    · exact .inr rfl
    · exact .inr rfl
    · exact .inl ⟨s * s', rfl⟩
    · exact .inl ⟨s * s', rfl⟩
  · rw [h]
    exact .inr rfl

/-- Zeros and no numbers are closed under subtraction. -/
theorem null_sub (hx : Null x) (hy : Null y) : Null (x - y) := by
  rcases hx with rfl | rfl | rfl <;> rcases hy with rfl | rfl | rfl
  all_goals decide +kernel

/-- They are closed under addition, too. -/
theorem null_add (hx : Null x) (hy : Null y) : Null (x + y) := by
  rcases hx with rfl | rfl | rfl <;> rcases hy with rfl | rfl | rfl
  all_goals decide +kernel

/-- None of them is positive, so that none of them tells on which side of an edge a point lies. -/
theorem not_pos_of_null (hx : Null x) : ¬0 < x := by
  rcases hx with rfl | rfl | rfl <;> decide +kernel

end Rearrangement.Binary64

namespace Rearrangement

open Binary64 Scalar

/-- A rectangle whose corners have no place contains every point. -/
theorem Footprint.contains_of_null {f : Footprint Float} (h : ∀ c ∈ f.corners, Null c.x ∧ Null c.y)
    (p : Point Float) : f.contains p = true := by
  have hside {a b : Point Float} (ha : a ∈ f.corners) (hb : b ∈ f.corners) :
      Null (side a b p) :=
    null_sub (null_mul (null_sub (h b hb).1 (h a ha).1) _)
      (null_mul (null_sub (h b hb).2 (h a ha).2) _)
  have hfirst : f.first ∈ f.corners := by simp [corners]
  have hsecond : f.second ∈ f.corners := by simp [corners]
  have hthird : f.third ∈ f.corners := by simp [corners]
  have hfourth : f.fourth ∈ f.corners := by simp [corners]
  have hsides : ∀ c ∈ f.sides p, Null c := by
    simp only [sides, List.forall_mem_cons]
    exact ⟨hside hfirst hsecond, hside hsecond hthird, hside hthird hfourth, hside hfourth hfirst,
      nofun⟩
  have hpositive : (f.sides p).any (fun c ↦ decide (0 < c)) = false :=
    List.any_eq_false.2 fun c hc ↦ by simpa using not_pos_of_null (hsides c hc)
  unfold contains
  simp only [hpositive]
  rfl

/-- An object without extent at the origin is wherever the pointer is. -/
theorem SceneObject.contains_footprint {o : SceneObject Float} (hx : o.position.x = 0)
    (hy : o.position.y = 0) (hwidth : o.size.x = 0) (hdepth : o.size.y = 0) (p : Point Float) :
    o.footprint.contains p = true := by
  refine Footprint.contains_of_null ?_ p
  have hzero : Null 0 := .inl rfl
  unfold footprint Footprint.ofOrientation Footprint.ofDirection Vec3.flat
  rw [hx, hy, hwidth, hdepth]
  simp only [Footprint.corners, List.forall_mem_cons]
  refine ⟨⟨null_sub (null_sub hzero (null_mul ?_ _)) (null_mul ?_ _),
      null_sub (null_sub hzero (null_mul ?_ _)) (null_mul ?_ _)⟩,
    ⟨null_sub (null_add hzero (null_mul ?_ _)) (null_mul ?_ _),
      null_sub (null_add hzero (null_mul ?_ _)) (null_mul ?_ _)⟩,
    ⟨null_add (null_add hzero (null_mul ?_ _)) (null_mul ?_ _),
      null_add (null_add hzero (null_mul ?_ _)) (null_mul ?_ _)⟩,
    ⟨null_add (null_sub hzero (null_mul ?_ _)) (null_mul ?_ _),
      null_add (null_sub hzero (null_mul ?_ _)) (null_mul ?_ _)⟩, nofun⟩
  all_goals decide +kernel

namespace Session

variable {kind : ActionKind} {target : ObjectId} {reference : Option ObjectId} {step : Step Float}
  {o : SceneObject Float}

/-- A run in which the pointer is pressed on an object without extent, when it can be dragged. -/
theorem run_pointerDown (s : Session Float) (ops later : List (Operation Float))
    (pixel : Point Float)
    (hphase : (s.run ops).phase = .manipulate kind target reference none step)
    (ho : (s.run ops).object? target = some o) (hkind : kind.isDrag) (hx : o.position.x = 0)
    (hy : o.position.y = 0) (hwidth : o.size.x = 0) (hdepth : o.size.y = 0) :
    s.run (ops ++ .pointerDown pixel :: later) = run
      { s.run ops with
        press := some pixel
        phase := .manipulate kind target reference (some ⟨pixel, o.position.flat⟩) step }
        later := by
  have hcontains : o.footprint.contains ((s.run ops).viewport.toWorld pixel) = true :=
    SceneObject.contains_footprint hx hy hwidth hdepth _
  have hdown : ((s.run ops).perform (.pointerDown pixel)).1 =
      { s.run ops with
        press := some pixel
        phase := .manipulate kind target reference (some ⟨pixel, o.position.flat⟩) step } := by
    change ((s.run ops).pointerDown pixel).1 = _
    unfold pointerDown
    rw [hphase]
    simp only [ho, hkind, hcontains, and_self, if_true]
  rw [run_append, run_cons, hdown]

end Session

end Rearrangement
