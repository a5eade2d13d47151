import Rearrangement.Relations
import Rearrangement.Text

/-!
# Planning problems

How a problem file is read for the facts at the start, and how one is written for a scene.

Reading is forgiving: comments are dropped, the first `(:init …)` section is found wherever it
stands, and a group of words in it counts as a fact if its first word is a known predicate.  Writing
lists all objects with their categories and all relations as initial facts, and leaves the goal to
be filled in.
-/

namespace Rearrangement.Problem

/-! ## Reading initial facts

A problem file asserts the facts that hold at the start in its `(:init …)` section.  A comment goes
from a semicolon to the end of the line. -/

/-- The text without its comments; the ends of lines stay. -/
def stripComments (cs : List Char) : List Char := go false cs
where
  /-- `inside` tells whether the text begins inside a comment. -/
  go (inside : Bool) : List Char → List Char
    | [] => []
    | c :: r =>
        if c = '\n' then c :: go false r
        else if inside || c = ';' then go true r
        else c :: go false r

/-- How the section of initial facts opens. -/
def initMark : List Char := ['(', ':', 'i', 'n', 'i', 't']

/-- What follows the first opening of the section, in letters of any case. -/
def afterInit? : List Char → Option (List Char)
  | [] => none
  | c :: r =>
      if ((c :: r).take initMark.length).map Char.toLower = initMark then
        some ((c :: r).drop initMark.length)
      else afterInit? r

/-- The text up to the parenthesis that closes `depth + 1` open ones, or all of it. -/
def untilClosed : Nat → List Char → List Char
  | _, [] => []
  | depth, '(' :: r => '(' :: untilClosed (depth + 1) r
  | 0, ')' :: _ => []
  | depth + 1, ')' :: r => ')' :: untilClosed depth r
  | depth, c :: r => c :: untilClosed depth r

/-- What stands between parentheses that hold no others, in order. -/
def groups (cs : List Char) : List (List Char) := go none cs
where
  /-- `inner` is what follows the last open parenthesis, its last character first. -/
  go (inner : Option (List Char)) : List Char → List (List Char)
    | [] => []
    | '(' :: r => go (some []) r
    | ')' :: r => match inner with
      | some g => g.reverse :: go none r
      | none => go none r
    | c :: r => go (inner.map (c :: ·)) r

/-- A fact about objects. -/
inductive Fact
  | on (object anchor : ObjectId)
  | inside (object anchor : ObjectId)
  | closed (container : ObjectId)
deriving DecidableEq, Repr

namespace Fact

/-- The fact that a group asserts: a known predicate, in letters of any case, with as many arguments
as it takes. -/
def ofGroup? (group : List Char) : Option Fact :=
  match Text.words group with
  | [] => none
  | head :: args =>
      match String.ofList (head.map Char.toLower), args.map String.ofList with
      | "on", [object, anchor] => some (.on object anchor)
      | "in", [object, anchor] => some (.inside object anchor)
      | "closed", [container] => some (.closed container)
      | _, _ => none

end Fact

/-- The relations that facts assert, in order. -/
def relationsOf (facts : List Fact) : RelationSet where
  on := facts.filterMap fun | .on o a => some ⟨o, a⟩ | _ => none
  inside := facts.filterMap fun | .inside o a => some ⟨o, a⟩ | _ => none
  closed := facts.filterMap fun | .closed c => some c | _ => none

/-- The facts that the section of initial facts asserts; none if there is no such section. -/
def initFacts (cs : List Char) : List Fact :=
  match afterInit? (stripComments cs) with
  | some r => (groups (untilClosed 0 r)).filterMap Fact.ofGroup?
  | none => []

/-- The relations that a problem file asserts at the start. -/
def initRelations (text : String) : RelationSet := relationsOf (initFacts text.toList)

/-! ## Writing a problem

A problem file lists all objects with their categories and all relations as initial facts.  The goal
is left to be filled in. -/

def domain : String := "gripper-strips"

/-- The lines of a problem file. -/
def lines {R : Type} (sceneId : String) (objects : List (SceneObject R)) (r : RelationSet) :
    List String :=
  [s!"(define (problem {sceneId}-goal)", s!"  (:domain {domain})", "  (:objects"] ++
  objects.map (fun o => s!"    {o.id} - {o.category.name}") ++
  ["  )", "  (:init"] ++
  r.on.map (fun p => s!"    (on {p.object} {p.anchor})") ++
  r.inside.map (fun p => s!"    (in {p.object} {p.anchor})") ++
  r.closed.map (fun c => s!"    (closed {c})") ++
  ["  )", "  (:goal", "    (and", "      ;; Add goal conditions here", "    )", "  )", ")"]

/-- A problem file. -/
def render {R : Type} (sceneId : String) (objects : List (SceneObject R)) (r : RelationSet) :
    String :=
  String.join ((lines sceneId objects r).map (· ++ "\n"))

end Rearrangement.Problem
