import Rearrangement.Binary64
import Rearrangement.Decimal
import Rearrangement.Session.Basic

/-!
# Canvas and pictures

The drawing commands that a canvas understands, as data, and the pictures of a session as lists of
them.

A canvas may fail at a command.  Then the commands before it have been carried out and those after
it are not tried, so that a picture that breaks off leaves a canvas with part of a picture.

A picture is a function of what is displayed (`Session.picture`): it reads the scene, the viewport
and the chosen objects, and neither the relations nor the trajectory.  Every picture begins by
clearing the canvas.  The settings that are changed for one object are kept before and given back
after.
-/

namespace Rearrangement

/-! ## Canvas calls -/

/-- One command to a canvas. -/
inductive Call
  | setWidth (pixels : UInt32)
  | setHeight (pixels : UInt32)
  | setTransform (a b c d e f : Float)
  | clearRect (x y width height : Float)
  | strokeStyle (style : String)
  | fillStyle (style : String)
  | lineWidth (width : Float)
  | font (font : String)
  | textAlign (align : String)
  | textBaseline (baseline : String)
  | globalAlpha (alpha : Float)
  | beginPath
  | closePath
  | moveTo (x y : Float)
  | lineTo (x y : Float)
  | stroke
  | fill
  | save
  | restore
  | arc (x y radius start stop : Float)
  | fillText (text : String) (x y : Float)
  | setProperty (name value : String)
deriving BEq, DecidableEq, Repr

/-- Why a canvas does not draw. -/
inductive CanvasFault
  | setTransform
  | arc
  | fillText
  | setProperty
  /-- Asking for the drawing context fails. -/
  | getContext
  /-- There is no drawing context. -/
  | noContext
  /-- The drawing context is of another kind. -/
  | wrongContext
deriving DecidableEq, Repr

namespace CanvasFault

def message : CanvasFault → String
  | setTransform => "set_transform failed"
  | arc => "arc failed"
  | fillText => "fill_text failed"
  | setProperty => "set_property failed"
  | getContext => "get_context failed"
  | noContext => "2d context unavailable"
  | wrongContext => "not a 2d context"

/-- Whether nothing at all can be drawn. -/
def isContext : CanvasFault → Bool
  | getContext | noContext | wrongContext => true
  | _ => false

/-- The commands that fail. -/
def refuses : CanvasFault → Call → Bool
  | setTransform, .setTransform .. => true
  | arc, .arc .. => true
  | fillText, .fillText .. => true
  | setProperty, .setProperty .. => true
  | _, _ => false

end CanvasFault

/-- What a canvas shows, and what is wrong with it. -/
structure Canvas where
  fault : Option CanvasFault
  /-- The last picture that was drawn to its end. -/
  frame : Option (List Call)
  /-- The last cursor that was set. -/
  cursor : Option String
deriving Repr

namespace Canvas

def blank : Canvas := ⟨none, none, none⟩

/-- The commands that a canvas carries out: all before the first that fails. -/
def carriedOut (c : Canvas) (calls : List Call) : List Call :=
  match c.fault with
  | some f => calls.takeWhile fun call => !f.refuses call
  | none => calls

/-- The fault that a list of commands runs into. -/
def failure? (c : Canvas) (calls : List Call) : Option CanvasFault :=
  c.fault.filter fun f => calls.any f.refuses

/-- Draw a picture.  Also returns the commands that were carried out. -/
def draw (c : Canvas) (picture : List Call) : Canvas × List Call × Except CanvasFault Unit :=
  match c.fault.filter CanvasFault.isContext with
  | some f => (c, [], .error f)
  | none =>
      match c.failure? picture with
      | some f => (c, c.carriedOut picture, .error f)
      | none => ({ c with frame := some picture }, picture, .ok ())

/-- Set the cursor.  Also returns the commands that were carried out. -/
def setCursor (c : Canvas) (name : String) : Canvas × List Call × Except CanvasFault Unit :=
  let call := Call.setProperty "cursor" name
  match c.failure? [call] with
  | some f => (c, [], .error f)
  | none => ({ c with cursor := some name }, [call], .ok ())

end Canvas

/-! ## Pictures of a session

The commands that draw a scene: the axes in the padding band, the footprints of the objects in scene
order, and on top of them a dot at the front of each object.  The chosen objects have outlines of
their own. -/

open Scalar

namespace Picture

def axisColor : String := "#333333"

def targetColor : String := "red"

def referenceColor : String := "blue"

def outlineColor : String := "black"

def labelFont : String := "10px sans-serif"

/-- The length of a tick, in pixels. -/
def tickLength : Float := 5

/-- The radius of the dot at the front of an object, in pixels. -/
def dotRadius : Float := 3

/-- How opaque footprints are. -/
def footprintAlpha : Float := 0.5

def color : Category → String
  | .container => "#27AE60"
  | .support => "#9B59B6"
  | .lid => "#3498DB"
  | .basket => "#E67E22"
  | .item => "#7F8C8D"
  | .base => "#ECF0F1"
  | .unclassified => "#BDC3C7"

/-- The colour and the width of an outline. -/
structure Outline where
  color : String
  width : Float

/-- The outline of an object, which shows whether it is the target or the reference. -/
def outline (id : ObjectId) (target reference : Option ObjectId) : Outline :=
  if target = some id then ⟨targetColor, 3⟩
  else if reference = some id then ⟨referenceColor, 2⟩
  else ⟨outlineColor, 0.5⟩

/-- An empty canvas, with as many device pixels to a pixel as the ratio says. -/
def background (v : Viewport Float) (pixelRatio : Float) : List Call :=
  [.setTransform pixelRatio 0 0 pixelRatio 0 0, .clearRect 0 0 v.width v.height]

/-- A tick of the axis at the left. -/
def leftTick (v : Viewport Float) (t : Tick Float) : List Call :=
  [.beginPath, .moveTo (v.origin.x - tickLength) t.pixel, .lineTo v.origin.x t.pixel, .stroke,
    .fillText (Decimal.label t.value) (v.origin.x - tickLength - 2) t.pixel]

/-- A tick of the axis at the bottom. -/
def bottomTick (bottom : Float) (t : Tick Float) : List Call :=
  [.beginPath, .moveTo t.pixel bottom, .lineTo t.pixel (bottom + tickLength), .stroke,
    .fillText (Decimal.label t.value) t.pixel (bottom + tickLength + 2)]

/-- World `x` runs down the left edge and world `y` along the bottom. -/
def axes (v : Viewport Float) (tickCount : Nat) : List Call :=
  let width := v.lengthToPixels v.world.yRange
  let height := v.lengthToPixels v.world.xRange
  let bottom := v.origin.y + height
  [.strokeStyle axisColor, .fillStyle axisColor, .lineWidth 1, .font labelFont, .beginPath,
    .moveTo v.origin.x v.origin.y, .lineTo v.origin.x bottom, .lineTo (v.origin.x + width) bottom,
    .stroke, .textAlign "right", .textBaseline "middle"] ++
  (v.ticks .x tickCount).flatMap (leftTick v) ++
  [.textAlign "center", .textBaseline "top"] ++
  (v.ticks .y tickCount).flatMap (bottomTick bottom)

/-- The path around a footprint. -/
def path (v : Viewport Float) (f : Footprint Float) : List Call :=
  match f.corners.map v.toCanvas with
  | [] => [.beginPath, .closePath]
  | p :: ps => [.beginPath, .moveTo p.x p.y] ++ ps.map (fun q => .lineTo q.x q.y) ++ [.closePath]

/-- An object: its footprint, filled and outlined, with its name in the middle. -/
def object (v : Viewport Float) (o : SceneObject Float) (line : Outline) : List Call :=
  let label := v.toCanvas o.footprint.centroid
  [.save] ++ path v o.footprint ++
    [.globalAlpha footprintAlpha, .fillStyle (color o.category), .fill,
      .globalAlpha 1, .strokeStyle line.color, .lineWidth line.width, .stroke,
      .fillStyle outlineColor, .font labelFont, .textAlign "center", .textBaseline "middle",
      .fillText o.name label.x label.y, .restore]

/-- The dot at the front of an object. -/
def marker (v : Viewport Float) (o : SceneObject Float) : List Call :=
  let dot := v.toCanvas o.footprint.front
  [.beginPath, .arc dot.x dot.y dotRadius 0 (2 * pi), .fillStyle outlineColor, .fill]

/-- The objects of a scene. -/
def objects (v : Viewport Float) (scene : Scene Float) (target reference : Option ObjectId) :
    List Call :=
  scene.objects.flatMap (fun o => object v o (outline o.id target reference)) ++
    scene.objects.flatMap (marker v)

end Picture

/-- The picture of a session. -/
def Session.picture (s : Session Float) (pixelRatio : Float) : List Call :=
  Picture.background s.viewport pixelRatio ++ Picture.axes s.viewport s.config.tickCount ++
    match s.scene? with
    | some scene => Picture.objects s.viewport scene s.phase.target s.phase.reference
    | none => []

end Rearrangement
