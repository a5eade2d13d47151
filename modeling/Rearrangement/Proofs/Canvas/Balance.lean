import Rearrangement.Proofs.Canvas.Attempt
import Rearrangement.Proofs.Session.Rollback

/-!
# Settings that are kept and given back

For each object the settings of the canvas are kept, and given back after the name of the object has
been drawn.  The name is the only thing in between that can fail, so what is drawn is `Balanced`
unless it is broken off there (`StopsAtName`): then the settings are never given back.  At no time
more is given back than was kept.  Over any number of attempts at drawing, what is left over is one
for each that was broken off at a name (`saves_renderings`).

## Main statements

* `balanced_picture`: a complete picture gives back all that it has kept, and nothing else.
* `balanced_or_stopsAtName`: an attempt is balanced, or broken off at the name of an object.
* `Rendering.even_iff`: exactly the latter is not balanced.
* `saves_renderings`: what any number of attempts leave kept.
* `kept_mute`: a canvas that draws no text is left with settings that are never given back.

The argument is a count along the commands.  `Balanced` is closed under putting pieces in a row
(`Balanced.append`), so it suffices to look at the layers of a picture, and of those only the
objects keep anything.  `Nested` is about all beginnings of a list of commands, since a picture may
end anywhere.
-/

namespace Rearrangement

/-! ## Balance -/

namespace Call

def isSave : Call → Bool
  | .save => true
  | _ => false

def isRestore : Call → Bool
  | .restore => true
  | _ => false

/-- Settings are neither kept nor given back. -/
def isPlain (call : Call) : Bool := !call.isSave && !call.isRestore

end Call

/-- How often settings are kept. -/
def saves (calls : List Call) : Nat := calls.countP Call.isSave

/-- How often settings are given back. -/
def restores (calls : List Call) : Nat := calls.countP Call.isRestore

/-- At no time more has been given back than was kept. -/
def Nested (calls : List Call) : Prop := ∀ before, before <+: calls → restores before ≤ saves before

/-- All that is kept is given back, and nothing else. -/
structure Balanced (calls : List Call) : Prop where
  nested : Nested calls
  even : saves calls = restores calls

section Balance

variable {xs ys done : List Call}

@[simp] theorem saves_append : saves (xs ++ ys) = saves xs + saves ys := List.countP_append

@[simp] theorem restores_append : restores (xs ++ ys) = restores xs + restores ys :=
  List.countP_append

/-- A beginning of two pieces ends in the first one or in the second. -/
theorem prefix_append_cases {before : List Call} (h : before <+: xs ++ ys) :
    before <+: xs ∨ ∃ later, before = xs ++ later ∧ later <+: ys := by
  obtain h' | ⟨later, rfl⟩ := List.prefix_or_prefix_of_prefix h (List.prefix_append xs ys)
  · exact .inl h'
  · exact .inr ⟨later, rfl, (List.prefix_append_right_inj xs).1 h⟩

/-- At most as much is given back as was kept. -/
theorem Nested.le (h : Nested xs) : restores xs ≤ saves xs := h xs (List.prefix_refl xs)

/-- Pieces that give back no more than they have kept do so in a row, for the second one may also
use what the first has left. -/
theorem Nested.append (hxs : Nested xs) (hys : Nested ys) : Nested (xs ++ ys) := by
  intro before hbefore
  obtain hbefore | ⟨later, rfl, hlater⟩ := prefix_append_cases hbefore
  · exact hxs before hbefore
  · rw [saves_append, restores_append]
    exact Nat.add_le_add hxs.le (hys later hlater)

/-- What has been kept can be given back. -/
theorem Nested.append_restore (hxs : Nested xs) (h : restores xs < saves xs) :
    Nested (xs ++ [.restore]) := by
  intro before hbefore
  obtain rfl | hbefore := List.prefix_concat_iff.1 hbefore
  · rw [saves_append, restores_append]
    exact h
  · exact hxs before hbefore

theorem balanced_nil : Balanced [] := ⟨fun _ h ↦ List.prefix_nil.1 h ▸ Nat.le_refl 0, rfl⟩

/-- Balanced pieces in a row are balanced. -/
theorem Balanced.append (hxs : Balanced xs) (hys : Balanced ys) : Balanced (xs ++ ys) := by
  refine ⟨hxs.nested.append hys.nested, ?_⟩
  rw [saves_append, restores_append, hxs.even, hys.even]

/-- So is any number of them. -/
theorem balanced_flatMap {α : Type} {f : α → List Call} (h : ∀ a, Balanced (f a)) (l : List α) :
    Balanced (l.flatMap f) := by
  induction l with
  | nil => exact balanced_nil
  | cons a l ih => exact (h a).append ih

/-- Where nothing is kept and nothing given back, it makes no difference how much is done. -/
theorem balanced_of_plain (h : xs.all Call.isPlain) (hdone : done <+: xs) : Balanced done := by
  have hplain : ∀ call ∈ xs, call.isPlain := List.all_eq_true.1 h
  have hsaves {before : List Call} (hbefore : before <+: xs) : saves before = 0 :=
    List.countP_eq_zero.2 fun call hcall hsave ↦ by
      simpa [Call.isPlain, hsave] using hplain call (hbefore.subset hcall)
  have hrestores {before : List Call} (hbefore : before <+: xs) : restores before = 0 :=
    List.countP_eq_zero.2 fun call hcall hrestore ↦ by
      simpa [Call.isPlain, hrestore] using hplain call (hbefore.subset hcall)
  refine ⟨fun before hbefore ↦ ?_, (hsaves hdone).trans (hrestores hdone).symm⟩
  rw [hrestores (hbefore.trans hdone)]
  exact Nat.zero_le _

theorem plain_of_keepsPen (h : xs.all Call.keepsPen) : xs.all Call.isPlain := by
  rw [List.all_eq_true] at h ⊢
  intro call hcall
  have hkeeps := h call hcall
  cases call <;> first | rfl | cases hkeeps

/-- What has been carried out is the beginning of the piece. -/
theorem BrokenOff.isPrefix (h : BrokenOff xs done) : done <+: xs := by
  obtain ⟨call, rest, rfl, -⟩ := h
  exact List.prefix_append done _

end Balance

/-! ## The parts of a picture -/

namespace Picture

variable (v : Viewport Float) (o : SceneObject Float) (line : Outline)

/-- An object up to its name. -/
def untilName : List Call :=
  .save :: path v o.footprint ++
    [.globalAlpha footprintAlpha, .fillStyle (color o.category), .fill,
      .globalAlpha 1, .strokeStyle line.color, .lineWidth line.width, .stroke,
      .fillStyle outlineColor, .font labelFont, .textAlign "center", .textBaseline "middle"]

/-- The name of an object, in its middle. -/
def name : Call :=
  .fillText o.name (v.toCanvas o.footprint.centroid).x (v.toCanvas o.footprint.centroid).y

/-- The name is what stands between keeping and giving back. -/
theorem object_eq : object v o line = untilName v o line ++ [name v o] ++ [.restore] := rfl

/-- Up to its name, an object keeps the settings once and gives nothing back. -/
theorem nested_untilName : Nested (untilName v o line) := by
  intro before hbefore
  obtain ⟨rest, hrest⟩ := hbefore
  cases before with
  | nil => exact Nat.le_refl 0
  | cons call before =>
    have hplain : (untilName v o line).tail.all Call.isPlain := rfl
    rw [← hrest] at hplain
    have hbefore := balanced_of_plain hplain (List.prefix_append before rest)
    change restores ([call] ++ before) ≤ saves ([call] ++ before)
    rw [saves_append, restores_append, hbefore.even]
    obtain ⟨rfl, -⟩ := List.cons.inj hrest
    exact Nat.add_le_add_right (Nat.zero_le 1) _

/-- With its name and all, it gives back what it has kept. -/
theorem balanced_object : Balanced (object v o line) := by
  have hname : Balanced [name v o] := balanced_of_plain rfl (List.prefix_refl _)
  rw [object_eq]
  exact ⟨((nested_untilName v o line).append hname.nested).append_restore Nat.zero_lt_one, rfl⟩

/-- Before its name, nothing of an object can fail, and nothing after it. -/
theorem eq_untilName_of_brokenOff {done : List Call} (h : BrokenOff (object v o line) done) :
    done = untilName v o line := by
  have hsafe {calls later : List Call} (hcalls : calls.any Call.canFail = false) :
      ¬BrokenOff calls later := fun h ↦ by
    obtain ⟨call, hcall, hfail⟩ := h.exists_canFail
    exact List.any_eq_false.1 hcalls call hcall hfail
  rw [object_eq, brokenOff_append, brokenOff_append] at h
  obtain (h | ⟨later, rfl, h⟩) | ⟨later, -, h⟩ := h
  · exact absurd h (hsafe rfl)
  · obtain ⟨call, rest, hsplit, -⟩ := h
    cases later with
    | nil => exact List.append_nil _
    | cons x later => cases later <;> cases hsplit
  · exact absurd h (hsafe rfl)

/-- The axes neither keep nor give back. -/
theorem plain_ground (pixelRatio : Float) (count : Nat) :
    (background v pixelRatio ++ axes v count).all Call.isPlain := by
  rw [ground_eq, List.all_append, plain_of_keepsPen (keepsPen_axes v count)]
  rfl

end Picture

/-! ## Attempts at drawing a session -/

namespace Session

variable {s : Session Float} {pixelRatio : Float} {done : List Call}

/-- The picture is broken off at the name of an object. -/
def StopsAtName (s : Session Float) (pixelRatio : Float) (done : List Call) : Prop :=
  ∃ before o after, s.shown = before ++ o :: after ∧
    done = s.ground pixelRatio ++
      before.flatMap (fun o ↦ Picture.object s.viewport o (s.outline o)) ++
        Picture.untilName s.viewport o (s.outline o)

/-- Whatever has been drawn of the axes is balanced. -/
theorem balanced_ground (h : done <+: s.ground pixelRatio) : Balanced done :=
  balanced_of_plain (Picture.plain_ground _ _ _) h

/-- Whatever has been drawn of the dots is balanced. -/
theorem balanced_markers (h : done <+: s.shown.flatMap (Picture.marker s.viewport)) :
    Balanced done := balanced_of_plain (plain_of_keepsPen (Picture.keepsPen_markers _ _)) h

/-- Objects that are complete are balanced. -/
theorem balanced_objects (s : Session Float) (objects : List (SceneObject Float)) :
    Balanced (objects.flatMap fun o ↦ Picture.object s.viewport o (s.outline o)) :=
  balanced_flatMap (fun o ↦ Picture.balanced_object _ o _) objects

/-- What is broken off at a name has kept settings once more than it has given them back. -/
theorem StopsAtName.nested (h : s.StopsAtName pixelRatio done) :
    Nested done ∧ saves done = restores done + 1 := by
  obtain ⟨before, o, after, -, rfl⟩ := h
  have hground : Balanced (s.ground pixelRatio) := balanced_ground (List.prefix_refl _)
  have hbefore := hground.append (s.balanced_objects before)
  refine ⟨hbefore.nested.append (Picture.nested_untilName _ _ _), ?_⟩
  rw [saves_append, restores_append, hbefore.even]
  rfl

/-- A complete picture is balanced. -/
theorem balanced_picture (s : Session Float) (pixelRatio : Float) :
    Balanced (s.picture pixelRatio) := by
  rw [picture_eq_layers]
  exact ((balanced_ground (List.prefix_refl _)).append (s.balanced_objects _)).append
    (balanced_markers (List.prefix_refl _))

/-- However an attempt at drawing ends, it is balanced or has stopped at a name. -/
theorem balanced_or_stopsAtName (h : Attempt (s.picture pixelRatio) done) :
    Balanced done ∨ s.StopsAtName pixelRatio done := by
  have hground : Balanced (s.ground pixelRatio) := balanced_ground (List.prefix_refl _)
  have hobjects := hground.append (s.balanced_objects s.shown)
  obtain rfl | h := h
  · exact .inl (s.balanced_picture pixelRatio)
  rw [picture_eq_layers, brokenOff_append, brokenOff_append] at h
  obtain (hbroken | ⟨later, rfl, hbroken⟩) | ⟨later, rfl, hbroken⟩ := h
  · exact .inl (balanced_ground hbroken.isPrefix)
  · obtain ⟨before, o, after, later, hshown, rfl, hobject⟩ := brokenOff_flatMap.1 hbroken
    obtain rfl := Picture.eq_untilName_of_brokenOff _ _ _ hobject
    exact .inr ⟨before, o, after, hshown, (List.append_assoc _ _ _).symm⟩
  · exact .inl (hobjects.append (balanced_markers hbroken.isPrefix))

end Session

/-- An attempt at drawing a session on a canvas on which any command may fail. -/
structure Rendering where
  session : Session Float
  pixelRatio : Float
  /-- What has been carried out. -/
  calls : List Call
  attempt : Attempt (session.picture pixelRatio) calls

/-- An easel draws in such attempts. -/
def Easel.rendering (e : Easel) : Rendering :=
  ⟨e.session, e.pixelRatio, e.render.2.1, e.attempt_render.1⟩

namespace Rendering

variable {r : Rendering}

/-- Everything has been carried out. -/
def Complete (r : Rendering) : Prop := r.calls = r.session.picture r.pixelRatio

def StopsAtName (r : Rendering) : Prop := r.session.StopsAtName r.pixelRatio r.calls

/-- At no time of an attempt more is given back than was kept. -/
theorem nested (r : Rendering) : Nested r.calls := by
  obtain h | h := Session.balanced_or_stopsAtName r.attempt
  · exact h.nested
  · exact h.nested.1

/-- An attempt is balanced unless it is broken off at the name of an object. -/
theorem even_iff (r : Rendering) : saves r.calls = restores r.calls ↔ ¬r.StopsAtName := by
  constructor
  · intro heven hstops
    have hmore := hstops.nested.2
    omega
  · intro hstops
    exact ((Session.balanced_or_stopsAtName r.attempt).resolve_right hstops).even

/-- A complete attempt is balanced. -/
theorem Complete.even (h : r.Complete) : saves r.calls = restores r.calls := by
  rw [h]
  exact (Session.balanced_picture _ _).even

end Rendering

open scoped Classical in
/-- Whatever fails in the course of any number of attempts at drawing, in each of them all settings
that are kept are given back, unless it is broken off at the name of an object.  Such attempts add
up: each leaves over one more.  At no time more is given back than was kept. -/
theorem saves_renderings (rs : List Rendering) :
    (∀ r ∈ rs, (saves r.calls = restores r.calls ↔ ¬r.StopsAtName) ∧
        (r.Complete → saves r.calls = restores r.calls)) ∧
      Nested (rs.flatMap (·.calls)) ∧
        saves (rs.flatMap (·.calls)) =
          restores (rs.flatMap (·.calls)) + rs.countP (·.StopsAtName) := by
  refine ⟨fun r _ ↦ ⟨r.even_iff, Rendering.Complete.even⟩, ?_⟩
  induction rs with
  | nil => exact ⟨balanced_nil.nested, rfl⟩
  | cons r rs ih =>
    refine ⟨r.nested.append ih.1, ?_⟩
    rw [List.flatMap_cons, saves_append, restores_append, List.countP_cons, ih.2]
    by_cases hstops : r.StopsAtName
    · have hmore := hstops.nested.2
      simp only [hstops, decide_true, if_true]
      omega
    · have heven := r.even_iff.2 hstops
      simp only [hstops, decide_false, Bool.false_eq_true, if_false]
      omega

namespace Kitchen

/-- The pea and the cup between axes without ticks, on a canvas that draws no text. -/
def mute : Easel where
  session := (Session.start { config with tickCount := 0 }).run [loadPea]
  pixelRatio := 1
  canvas := ⟨some .fillText, none, none⟩

/-- The pea cannot be named, and what has been kept for it is not given back. -/
theorem kept_mute : mute.render.2.2 = .error .fillText ∧ mute.rendering.StopsAtName ∧
    saves mute.render.2.1 = 1 ∧ restores mute.render.2.1 = 0 := by
  refine ⟨rfl, ⟨[], pea, [cup], rfl, rfl⟩, rfl, rfl⟩

end Kitchen

end Rearrangement
