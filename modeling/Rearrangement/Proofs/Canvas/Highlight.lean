import Rearrangement.Proofs.Annotator.Smooth
import Rearrangement.Proofs.Canvas.Attempt
import Rearrangement.Proofs.Session.Frame
import Rearrangement.Proofs.Session.Rollback
import Rearrangement.Proofs.Session.Selection

/-!
# What a picture shows

What commands leave on a canvas, and what a picture of a session therefore shows.

On top of the axes, a picture shows each object as a filled and outlined rectangle with its name,
and then the dots at their fronts (`marks_picture`).  This does not depend on what has been set on
the canvas before, except how opaque the dots are.  Lines in the colours of the chosen objects are
drawn nowhere else.  Since objects differ by their identifiers, and since in every run what is
chosen is on the table and nothing is related to itself, each chosen object is the only one with its
outline (`highlights_run`).

## Main statements

* `marks_append`: what is drawn by commands in a row.
* `marks_picture`: all that a picture of a session shows, in order.
* `highlights_of_outline`: if only one object has an outline in a colour that the axes do not have,
  then all lines of that colour go around it.
* `highlights_run`: the picture of a session after any run.
-/

namespace Rearrangement

/-! ## What commands leave on a canvas

A command changes what is set on a canvas, its `Pen`, or the path that is being laid out, or it
leaves a mark: the path filled or stroked, or a text, as the pen has it at that moment.  What a list
of commands draws are its `marks`.  The transform is not part of the pen, because a picture sets it
once and for all before anything is drawn: points are in the units in which commands have them. -/

/-- A piece of a path. -/
inductive Segment
  | start (p : Point Float)
  | line (p : Point Float)
  | arc (center : Point Float) (radius start stop : Float)
  | close

/-- The path around points. -/
def Segment.around : List (Point Float) → List Segment
  | [] => [.close]
  | p :: ps => .start p :: ps.map .line ++ [.close]

/-- What is set on a canvas. -/
structure Pen where
  fillStyle : String
  strokeStyle : String
  lineWidth : Float
  font : String
  textAlign : String
  textBaseline : String
  alpha : Float

/-- What a canvas starts with, and starts again with when its size is set. -/
def Pen.standard : Pen :=
  ⟨"#000000", "#000000", 1, "10px sans-serif", "start", "alphabetic", 1⟩

/-- What has been drawn with one command. -/
inductive Mark
  | cleared (corner extent : Point Float)
  | filled (path : List Segment) (style : String) (alpha : Float)
  | stroked (path : List Segment) (style : String) (width alpha : Float)
  | text (text : String) (place : Point Float) (pen : Pen)

/-- The mark is a line in the given colour. -/
def Mark.strokes (color : String) : Mark → Bool
  | .stroked _ style _ _ => style = color
  | _ => false

/-- What the next command depends on. -/
structure Surface where
  pen : Pen
  /-- What has been kept, the latest first. -/
  kept : List Pen
  path : List Segment

namespace Surface

def blank : Surface := ⟨.standard, [], []⟩

def step (s : Surface) : Call → Surface
  | .setWidth _ | .setHeight _ => blank
  | .strokeStyle style => { s with pen.strokeStyle := style }
  | .fillStyle style => { s with pen.fillStyle := style }
  | .lineWidth width => { s with pen.lineWidth := width }
  | .font font => { s with pen.font := font }
  | .textAlign align => { s with pen.textAlign := align }
  | .textBaseline baseline => { s with pen.textBaseline := baseline }
  | .globalAlpha alpha => { s with pen.alpha := alpha }
  | .beginPath => { s with path := [] }
  | .closePath => { s with path := s.path ++ [.close] }
  | .moveTo x y => { s with path := s.path ++ [.start ⟨x, y⟩] }
  | .lineTo x y => { s with path := s.path ++ [.line ⟨x, y⟩] }
  | .arc x y radius start stop => { s with path := s.path ++ [.arc ⟨x, y⟩ radius start stop] }
  | .save => { s with kept := s.pen :: s.kept }
  | .restore =>
      match s.kept with
      | [] => s
      | pen :: kept => { s with pen, kept }
  | .setTransform .. | .clearRect .. | .stroke | .fill | .fillText .. | .setProperty .. => s

def mark? (s : Surface) : Call → Option Mark
  | .clearRect x y width height => some (.cleared ⟨x, y⟩ ⟨width, height⟩)
  | .fill => some (.filled s.path s.pen.fillStyle s.pen.alpha)
  | .stroke =>
      some (.stroked s.path s.pen.strokeStyle s.pen.lineWidth s.pen.alpha)
  | .fillText text x y => some (.text text ⟨x, y⟩ s.pen)
  | _ => none

/-- The canvas after commands. -/
def after (s : Surface) (calls : List Call) : Surface := calls.foldl step s

/-- What commands draw. -/
def marks (s : Surface) : List Call → List Mark
  | [] => []
  | call :: calls => (s.mark? call).toList ++ (s.step call).marks calls

variable {s : Surface} {xs ys : List Call} {call : Call}

/-- Commands in a row lead where the second lot leads from where the first one has led. -/
theorem after_append (s : Surface) (xs ys : List Call) :
    s.after (xs ++ ys) = (s.after xs).after ys := List.foldl_append

/-- The marks of commands in a row are those of both, the second ones drawn with what the first have
set. -/
theorem marks_append (s : Surface) (xs ys : List Call) :
    s.marks (xs ++ ys) = s.marks xs ++ (s.after xs).marks ys := by
  induction xs generalizing s with
  | nil => rfl
  | cons call xs ih =>
    rw [List.cons_append, marks, ih, marks, List.append_assoc]
    rfl

end Surface

/-- With both pens lines have the same colour, and everything is as opaque. -/
structure Pen.Alike (p p' : Pen) : Prop where
  strokeStyle : p'.strokeStyle = p.strokeStyle
  alpha : p'.alpha = p.alpha

namespace Surface

variable {s : Surface} {calls : List Call} {call : Call}

/-- A command that keeps the pen changes at most how opaque it is. -/
theorem alike_step (h : call.keepsPen) : s.pen.Alike (s.step call).pen := by
  cases call <;> first | exact ⟨rfl, rfl⟩ | cases h

/-- A line has the colour that is set at that moment. -/
theorem strokes_mark? {m : Mark} {color : String} (h : m ∈ s.mark? call) (hm : m.strokes color) :
    color = s.pen.strokeStyle := by
  cases call <;> cases h <;> simp_all [Mark.strokes]

/-- If the colour of lines is left alone, all lines have it. -/
theorem alike_after (h : calls.all Call.keepsPen) :
    s.pen.Alike (s.after calls).pen ∧
      ∀ m ∈ s.marks calls, ∀ color, m.strokes color → color = s.pen.strokeStyle := by
  induction calls generalizing s with
  | nil => exact ⟨⟨rfl, rfl⟩, nofun⟩
  | cons call calls ih =>
    rw [List.all_cons, Bool.and_eq_true] at h
    obtain ⟨hstyle, halpha⟩ := alike_step (s := s) h.1
    obtain ⟨⟨hstyle', halpha'⟩, hmarks⟩ := ih (s := s.step call) h.2
    refine ⟨⟨hstyle'.trans hstyle, halpha'.trans halpha⟩, fun m hm color hcolor ↦ ?_⟩
    rw [marks, List.mem_append, Option.mem_toList] at hm
    obtain hm | hm := hm
    · exact strokes_mark? hm hcolor
    · exact (hmarks m hm color hcolor).trans hstyle

end Surface

/-! ## The layers of a picture -/

/-- The object with an identifier is the only one that has it. -/
theorem Scene.filter_id_eq {t : Scene Float} {id : ObjectId} {o : SceneObject Float}
    (hdistinct : (t.objects.map (·.id)).Nodup) (ho : t.get? id = some o) :
    t.objects.filter (·.id = id) = [o] := by
  rw [get?] at ho
  generalize t.objects = objects at ho hdistinct
  induction objects with
  | nil => cases ho
  | cons a objects ih =>
    obtain ⟨hfresh, hdistinct⟩ := List.nodup_cons.1 hdistinct
    by_cases ha : a.id = id
    · rw [List.find?_cons_of_pos (by simpa using ha)] at ho
      obtain rfl := Option.some.inj ho
      rw [List.filter_cons_of_pos (by simpa using ha), List.filter_eq_nil_iff.2]
      intro b hb hid
      have hsame : b.id = a.id := (of_decide_eq_true hid).trans ha.symm
      exact hfresh (List.mem_map.2 ⟨b, hb, hsame⟩)
    · rw [List.find?_cons_of_neg (by simpa using ha)] at ho
      rw [List.filter_cons_of_neg (by simpa using ha), ih ho hdistinct]

/-! ### Layers -/

namespace Picture

/-- The rectangle of an object, as it is displayed. -/
def polygon (v : Viewport Float) (o : SceneObject Float) : List Segment :=
  Segment.around (o.footprint.corners.map v.toCanvas)

/-- What is drawn for an object. -/
def objectMarks (v : Viewport Float) (o : SceneObject Float) (line : Outline) : List Mark :=
  [.filled (polygon v o) (color o.category) footprintAlpha,
    .stroked (polygon v o) line.color line.width 1,
    .text o.name (v.toCanvas o.footprint.centroid)
      ⟨outlineColor, line.color, line.width, labelFont, "center", "middle", 1⟩]

/-- What is drawn at the front of an object. -/
def markerMark (v : Viewport Float) (alpha : Float) (o : SceneObject Float) : Mark :=
  .filled [.arc (v.toCanvas o.footprint.front) dotRadius 0 (2 * Scalar.pi)] outlineColor alpha

variable {v : Viewport Float} {o : SceneObject Float} {line : Outline} {s : Surface}

/-- An object is drawn in the same way from any pen. -/
theorem marks_object : s.marks (object v o line) = objectMarks v o line := rfl

/-- A dot depends on how opaque the pen is, and on nothing else of it. -/
theorem marks_marker : s.marks (marker v o) = [markerMark v s.pen.alpha o] := rfl

theorem after_marker : (s.after (marker v o)).pen.alpha = s.pen.alpha := rfl

/-- Objects one after the other are drawn each in its own way, and leave the pen as it was. -/
theorem marks_objects (line : SceneObject Float → Outline) (objects : List (SceneObject Float)) :
    s.marks (objects.flatMap fun o ↦ object v o (line o)) =
      objects.flatMap (fun o ↦ objectMarks v o (line o)) ∧
    (s.after (objects.flatMap fun o ↦ object v o (line o))).pen = s.pen := by
  induction objects generalizing s with
  | nil => exact ⟨rfl, rfl⟩
  | cons o objects ih =>
    obtain ⟨hmarks, hafter⟩ := ih (s := s.after (object v o (line o)))
    rw [List.flatMap_cons, Surface.marks_append, Surface.after_append, hmarks, marks_object]
    exact ⟨rfl, hafter⟩

/-- The dots are drawn in the order of the objects. -/
theorem marks_markers (objects : List (SceneObject Float)) :
    s.marks (objects.flatMap (marker v)) = objects.map (markerMark v s.pen.alpha) := by
  induction objects generalizing s with
  | nil => rfl
  | cons o objects ih =>
    rw [List.flatMap_cons, Surface.marks_append, ih, marks_marker, after_marker]
    rfl

variable (v s) (pixelRatio : Float) (count : Nat)

/-- The axes are drawn in one colour. -/
theorem marks_ground :
    (s.after (background v pixelRatio ++ axes v count)).pen.alpha = s.pen.alpha ∧
      ∀ m ∈ s.marks (background v pixelRatio ++ axes v count), ∀ color, m.strokes color →
        color = axisColor := by
  rw [ground_eq, Surface.after_append, Surface.marks_append]
  obtain ⟨hpen, hmarks⟩ := Surface.alike_after
    (s := { s with pen.strokeStyle := axisColor }) (keepsPen_axes v count)
  refine ⟨hpen.alpha, fun m hm color hcolor ↦ ?_⟩
  obtain hm | hm := List.mem_append.1 hm
  · obtain rfl := List.mem_singleton.1 hm
    cases hcolor
  · exact hmarks m hm color hcolor

end Picture

namespace Session

variable {s : Session Float}

/-- All that is drawn in a picture, on a canvas on which anything may have been set before. -/
theorem marks_picture (s : Session Float) (pixelRatio : Float) (surface : Surface) :
    surface.marks (s.picture pixelRatio) =
      surface.marks (s.ground pixelRatio) ++
        s.shown.flatMap (fun o ↦ Picture.objectMarks s.viewport o (s.outline o)) ++
          s.shown.map (Picture.markerMark s.viewport surface.pen.alpha) := by
  obtain ⟨halpha, -⟩ := Picture.marks_ground s.viewport surface pixelRatio s.config.tickCount
  obtain ⟨hobjects, hafter⟩ := Picture.marks_objects (v := s.viewport)
    (s := surface.after (s.ground pixelRatio)) s.outline s.shown
  rw [picture_eq_layers, Surface.marks_append, Surface.marks_append, hobjects,
    Picture.marks_markers, Surface.after_append, hafter]
  exact congrArg _ (congrArg (s.shown.map <| Picture.markerMark s.viewport ·) halpha)

/-! ### What is chosen -/

/-- Of all that is drawn, exactly the rectangle of the chosen object is outlined with `line`, and
if none is chosen nothing is. -/
def Highlights (s : Session Float) (marks : List Mark) (line : Picture.Outline) :
    Option ObjectId → Prop
  | none => marks.filter (·.strokes line.color) = []
  | some id => ∃ o, s.shown.filter (·.id = id) = [o] ∧ marks.filter (·.strokes line.color) =
      [.stroked (Picture.polygon s.viewport o) line.color line.width 1]

/-- Lines in the colour of an outline that only the chosen object has are its outline. -/
theorem filter_strokes {line : Picture.Outline} {chosen : Option ObjectId} (pixelRatio : Float)
    (surface : Surface) (haxis : line.color ≠ Picture.axisColor)
    (hline : ∀ o, chosen = some o.id → s.outline o = line)
    (hother : ∀ o, chosen ≠ some o.id → (s.outline o).color ≠ line.color) :
    (surface.marks (s.picture pixelRatio)).filter (·.strokes line.color) =
      (s.shown.filter (chosen = some ·.id)).map fun o ↦
        .stroked (Picture.polygon s.viewport o) line.color line.width 1 := by
  have hground : (surface.marks (s.ground pixelRatio)).filter (·.strokes line.color) = [] :=
    List.filter_eq_nil_iff.2 fun m hm hcolor ↦
      haxis ((Picture.marks_ground _ _ _ _).2 m hm _ hcolor)
  have hmarkers (alpha : Float) : (s.shown.map (Picture.markerMark s.viewport alpha)).filter
      (·.strokes line.color) = [] := by
    rw [List.filter_eq_nil_iff]
    rintro m hm hcolor
    obtain ⟨o, -, rfl⟩ := List.mem_map.1 hm
    cases hcolor
  rw [marks_picture, List.filter_append, List.filter_append, hground, hmarkers, List.append_nil,
    List.nil_append]
  induction s.shown with
  | nil => rfl
  | cons o objects ih =>
    rw [List.flatMap_cons, List.filter_append, ih]
    by_cases ho : chosen = some o.id
    · rw [hline o ho, List.filter_cons_of_pos (by simpa using ho)]
      simp [Picture.objectMarks, Mark.strokes]
    · rw [List.filter_cons_of_neg (by simpa using ho)]
      simp [Picture.objectMarks, Mark.strokes, hother o ho]

/-- If an outline is that of the chosen object alone, and its colour not that of the axes, then all
lines in the colour go around this object. -/
theorem highlights_of_outline {line : Picture.Outline} {chosen : Option ObjectId}
    (pixelRatio : Float) (surface : Surface) (haxis : line.color ≠ Picture.axisColor)
    (hline : ∀ o, chosen = some o.id → s.outline o = line)
    (hother : ∀ o, chosen ≠ some o.id → (s.outline o).color ≠ line.color)
    (hshown : ∀ id, chosen = some id → ∃ o, s.shown.filter (·.id = id) = [o]) :
    s.Highlights (surface.marks (s.picture pixelRatio)) line chosen := by
  have hfilter := filter_strokes pixelRatio surface haxis hline hother
  cases chosen with
  | none => simpa [Highlights] using hfilter
  | some id =>
    obtain ⟨o, ho⟩ := hshown id rfl
    refine ⟨o, ho, hfilter.trans ?_⟩
    have hsame : (fun o : SceneObject Float ↦ decide (some id = some o.id)) =
        fun o ↦ decide (o.id = id) := by
      funext o
      simp [eq_comm]
    rw [hsame, ho]
    rfl

/-- An object that is chosen is the only one shown with its identifier. -/
theorem exists_shown_eq (hs : s.Coherent) (hchosen : s.progress.Chosen)
    (hdistinct : s.progress.Distinct) {id : ObjectId}
    (hid : s.phase.target = some id ∨ s.phase.reference = some id) :
    ∃ o, s.shown.filter (·.id = id) = [o] := by
  obtain ⟨t, o, ht, ho⟩ := hs.sound.exists_chosen hchosen hid
  have hshown : s.shown = t.scene.objects := by
    change s.table = some t at ht
    rw [shown, scene?, ht]
    rfl
  rw [hshown]
  exact ⟨o, Scene.filter_id_eq (hdistinct t ht) ho⟩

/-- The outlines in the colours of the chosen objects are theirs. -/
theorem Coherent.highlights (hs : s.Coherent) (hchosen : s.progress.Chosen)
    (hdistinct : s.progress.Distinct) (pixelRatio : Float) (surface : Surface) :
    s.Highlights (surface.marks (s.picture pixelRatio)) ⟨Picture.targetColor, 3⟩ s.phase.target ∧
      s.Highlights (surface.marks (s.picture pixelRatio)) ⟨Picture.referenceColor, 2⟩
        s.phase.reference := by
  constructor
  · refine highlights_of_outline pixelRatio surface (by decide) (fun o ho ↦ if_pos ho)
      (fun o ho ↦ ?_) fun id hid ↦ exists_shown_eq hs hchosen hdistinct (.inl hid)
    rw [outline, Picture.outline, if_neg ho]
    split <;> decide
  · refine highlights_of_outline pixelRatio surface (by decide) (fun o ho ↦ ?_) (fun o ho ↦ ?_)
      fun id hid ↦ exists_shown_eq hs hchosen hdistinct (.inr hid)
    · have htarget : s.phase.target ≠ some o.id := fun h ↦ hs.sound.reference_ne hchosen h ho
      rw [outline, Picture.outline, if_neg htarget, if_pos ho]
    · rw [outline, Picture.outline, if_neg ho]
      split <;> decide

/-- In every run, on a canvas that fails nothing, a picture shows behind one another the axes, the
objects and their markers, and exactly the chosen objects have the outlines of such. -/
theorem highlights_run (config : Config Float) (ops : List (Operation Float)) (pixelRatio : Float)
    {c : Canvas} (hc : c.fault = none) (surface : Surface) :
    let s := (start config).run ops
    let drawn := Easel.render ⟨s, pixelRatio, c⟩
    let marks := surface.marks drawn.2.1
    drawn.2.2 = .ok () ∧
      marks = surface.marks (s.ground pixelRatio) ++
        s.shown.flatMap (fun o ↦ Picture.objectMarks s.viewport o (s.outline o)) ++
          s.shown.map (Picture.markerMark s.viewport surface.pen.alpha) ∧
      s.Highlights marks ⟨Picture.targetColor, 3⟩ s.phase.target ∧
        s.Highlights marks ⟨Picture.referenceColor, 2⟩ s.phase.reference := by
  intro s drawn marks
  have hdrawn : drawn.2 = (s.picture pixelRatio, .ok ()) :=
    congrArg Prod.snd (Canvas.draw_eq hc (s.picture pixelRatio))
  have hmarks : marks = surface.marks (s.picture pixelRatio) :=
    congrArg (surface.marks ·.1) hdrawn
  have hs : s.Coherent := (coherent_start config).run ops
  rw [hmarks]
  exact ⟨congrArg Prod.snd hdrawn, s.marks_picture pixelRatio surface,
    hs.highlights (chosen_run config ops) (distinct_run config ops) pixelRatio surface⟩

/-- The cup is put near the bowl. -/
theorem highlights_run_cup :
    let s := (start Kitchen.config).run
      [Kitchen.loadOpen, .choose .putNear, .clickObject "cup", .clickObject "bowl"]
    let marks := Surface.blank.marks (Easel.render ⟨s, 1, .blank⟩).2.1
    Canvas.blank.fault = none ∧ s.shown.length = 3 ∧
      s.Highlights marks ⟨Picture.targetColor, 3⟩ (some "cup") ∧
        s.Highlights marks ⟨Picture.referenceColor, 2⟩ (some "bowl") := by
  obtain ⟨-, -, htarget, hreference⟩ := highlights_run Kitchen.config
    [Kitchen.loadOpen, .choose .putNear, .clickObject "cup", .clickObject "bowl"] 1
    (c := .blank) rfl .blank
  exact ⟨rfl, rfl, htarget, hreference⟩

end Session

end Rearrangement
