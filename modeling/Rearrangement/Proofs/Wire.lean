import Rearrangement.Annotator
import Rearrangement.CommandLine.Client
import Rearrangement.Proofs.Json.Number
import Rearrangement.Proofs.Json.Reading
import Rearrangement.Proofs.Table.Measured
import Rearrangement.Service.Answer
import Rearrangement.Wire

/-!
# Saves read back

What is written of objects, lid maps, actions, relations, bundles and payloads is decoded to them.
For each type there are two lemmas: that what is written is decoded to what was there, and that it
can be read from text at all (`Readable`), for which its coordinates have to be finite.

With the reading of text this makes what is saved come back (`saved_reads_back`): the file of
actions and the body of a save spell the same actions, and the service decodes the body to the
payload that was sent.  Nothing is supposed of how numbers are printed and read; that doubles
survive it is a theorem about the printer and the reader.

## Main statements

* `ofJson?_toJson`, in the namespace of each type: what is written is decoded.
* `SceneBundle.read?_compact`, `Action.readList?_compact` and their like: so it is from text.
* `saved_reads_back`: the file, the body, the payload and the bundle.
-/

namespace Rearrangement

/-! ## Objects and lid maps -/

open Scalar

namespace Json

variable {α : Type}

/-- A list is decoded if each of its items is. -/
theorem list?_map {encode : α → Json} {decode : Json → Option α} {xs : List α}
    (h : ∀ x ∈ xs, decode (encode x) = some x) :
    list? decode (.array (xs.map encode)) = some xs := by
  change (xs.map encode).mapM decode = some xs
  induction xs with
  | nil => rfl
  | cons x xs ih =>
    rw [List.map_cons, List.mapM_cons, h x List.mem_cons_self,
      ih fun y hy ↦ h y (List.mem_cons_of_mem x hy)]
    rfl

/-- Finite numbers can be read back. -/
theorem readable_real {x : Float} (h : IsFinite x) : (Json.real x).Readable :=
  .number (readsBack_real (Binary64.isFinite_iff.1 h))

/-- A list can be read back if its items can. -/
theorem readable_map {encode : α → Json} {xs : List α} (h : ∀ x ∈ xs, (encode x).Readable) :
    (Json.array (xs.map encode)).Readable := by
  refine .array fun v hv ↦ ?_
  obtain ⟨x, hx, rfl⟩ := List.mem_map.1 hv
  exact h x hx

/-- A list is one level deeper than its items. -/
theorem depth_map_le {encode : α → Json} {xs : List α} {n : ℕ}
    (h : ∀ x ∈ xs, (encode x).depth ≤ n) : (Json.array (xs.map encode)).depth ≤ n + 1 := by
  refine Nat.succ_le_succ (depthItems_le fun v hv ↦ ?_)
  obtain ⟨x, hx, rfl⟩ := List.mem_map.1 hv
  exact h x hx

end Json

open Json

theorem Vec3.ofJson?_toJson (v : Vec3 Float) : Vec3.ofJson? v.toJson = some v := rfl

theorem Vec3.readable {v : Vec3 Float} (h : v.All IsFinite) : v.toJson.Readable := by
  refine .array ?_
  simp only [List.forall_mem_cons]
  exact ⟨readable_real h.1, readable_real h.2.1, readable_real h.2.2, nofun⟩

theorem Category.ofJson?_toJson (c : Category) : Category.ofJson? c.toJson = some c :=
  congrArg some (Category.ofName_name c)

namespace SceneObject

variable {o : SceneObject Float}

theorem ofJson?_toJson (o : SceneObject Float) : ofJson? o.toJson = some o := by
  obtain ⟨id, name, category, position, orientation, size, isOpen⟩ := o
  cases isOpen <;> cases category <;> rfl

theorem readable (hpose : o.pose.All IsFinite) (hsize : o.size.All IsFinite) :
    o.toJson.Readable := by
  refine .object (List.forall_mem_append.2 ⟨?_, ?_⟩)
  · simp only [List.forall_mem_cons]
    exact ⟨.string _, .string _, .string _, Vec3.readable hpose.1, readable_real hpose.2,
      Vec3.readable hsize, nofun⟩
  · cases o.isOpen with
    | none => exact nofun
    | some b => exact List.forall_mem_singleton.2 (.bool b)

end SceneObject

namespace LidMap

/-- An entry after all others stays the last one. -/
theorem insertEntry_append {container lid : ObjectId} {es : List (ObjectId × ObjectId)}
    (h : ∀ e ∈ es, e.1 < container) : insertEntry container lid es = es ++ [(container, lid)] := by
  induction es with
  | nil => rfl
  | cons e es ih =>
    have hlt := h e List.mem_cons_self
    have hne : container ≠ e.1 := fun heq ↦ String.lt_irrefl _ (heq ▸ hlt)
    rw [insertEntry, if_neg (String.lt_asymm hlt), if_neg hne,
      ih fun e' he' ↦ h e' (List.mem_cons_of_mem e he')]
    rfl

/-- Entries that come in order are put one after the other. -/
theorem entries_foldl_insert (es : List (ObjectId × ObjectId)) (m : LidMap)
    (h : (m.entries ++ es).Pairwise (·.1 < ·.1)) :
    (es.foldl (fun m e ↦ m.insert e.1 e.2) m).entries = m.entries ++ es := by
  induction es generalizing m with
  | nil => exact (List.append_nil _).symm
  | cons e es ih =>
    have hlast : insertEntry e.1 e.2 m.entries = m.entries ++ [e] :=
      insertEntry_append fun d hd ↦ (List.pairwise_append.1 h).2.2 d hd e List.mem_cons_self
    have hnext : (m.insert e.1 e.2).entries ++ es = m.entries ++ e :: es := by
      change insertEntry e.1 e.2 m.entries ++ es = _
      rw [hlast, List.append_assoc]
      rfl
    rw [List.foldl_cons, ih _ (hnext ▸ h), hnext]

theorem ofList_entries (m : LidMap) : ofList m.entries = m := by
  have hentries : (ofList m.entries).entries = m.entries :=
    entries_foldl_insert m.entries empty m.sorted
  obtain ⟨es, hes⟩ := m
  exact (LidMap.mk.injEq ..).mpr hentries

theorem ofJson?_toJson (m : LidMap) : ofJson? m.toJson = some m := by
  have hentries (es : List (ObjectId × ObjectId)) :
      (es.map fun e ↦ (e.1, Json.string e.2)).mapM
        (fun e : String × Json ↦ e.2.string?.map fun lid ↦ (e.1, lid)) = some es := by
    induction es with
    | nil => rfl
    | cons e es ih =>
      rw [List.map_cons, List.mapM_cons, ih]
      rfl
  rw [toJson, ofJson?, hentries]
  exact congrArg some (ofList_entries m)

theorem readable (m : LidMap) : m.toJson.Readable := by
  refine .object fun e he ↦ ?_
  obtain ⟨c, -, rfl⟩ := List.mem_map.1 he
  exact .string c.2

end LidMap

/-! ## Bundles and payloads -/

open Json Scalar

namespace Action

variable {a : Action Float} {as : List (Action Float)}

theorem ofJson?_toJson (a : Action Float) : ofJson? a.toJson = some a := by
  obtain ⟨kind, object, reference, pose⟩ := a
  cases reference <;> cases kind <;> rfl

theorem readable (h : a.pose.All IsFinite) : a.toJson.Readable := by
  have hlast : ∀ m ∈ [("new_pos", a.pose.position.toJson),
      ("new_orientation", Json.real a.pose.orientation)], m.2.Readable := by
    simp only [List.forall_mem_cons]
    exact ⟨Vec3.readable h.1, readable_real h.2, nofun⟩
  refine .object (List.forall_mem_append.2 ⟨List.forall_mem_append.2 ⟨?_, ?_⟩, hlast⟩)
  · simp only [List.forall_mem_cons]
    exact ⟨.string _, .string _, nofun⟩
  · cases a.reference with
    | none => exact nofun
    | some r => exact List.forall_mem_singleton.2 (.string r)

theorem depth_toJson (a : Action Float) : a.toJson.depth = 2 := by
  obtain ⟨kind, object, reference, pose⟩ := a
  cases reference <;> rfl

/-- A list of actions is decoded to itself. -/
theorem listOfJson?_listToJson (as : List (Action Float)) :
    listOfJson? (listToJson as) = some as :=
  list?_map fun a _ ↦ ofJson?_toJson a

theorem readable_list (h : ∀ a ∈ as, a.pose.All IsFinite) : (listToJson as).Readable :=
  readable_map fun a ha ↦ readable (h a ha)

theorem depth_listToJson_le (as : List (Action Float)) : (listToJson as).depth ≤ 3 :=
  depth_map_le fun a _ ↦ Nat.le_of_eq (depth_toJson a)

end Action

namespace RelationSet

theorem ofJson?_toJson (r : RelationSet) : ofJson? r.toJson = some r := by
  have hon : list? Placement.ofJson? (.array (r.on.map Placement.toJson)) = some r.on :=
    list?_map fun _ _ ↦ rfl
  have hinside : list? Placement.ofJson? (.array (r.inside.map Placement.toJson)) = some r.inside :=
    list?_map fun _ _ ↦ rfl
  have hclosed : list? closedOfJson? (.array (r.closed.map closedToJson)) = some r.closed :=
    list?_map fun _ _ ↦ rfl
  change (do
    let on ← list? Placement.ofJson? (.array (r.on.map Placement.toJson))
    let inside ← list? Placement.ofJson? (.array (r.inside.map Placement.toJson))
    let closed ← list? closedOfJson? (.array (r.closed.map closedToJson))
    return (⟨on, inside, closed⟩ : RelationSet)) = some r
  rw [hon, hinside, hclosed]
  rfl

theorem readable (r : RelationSet) : r.toJson.Readable := by
  have hplacement (p : Placement) : p.toJson.Readable := by
    refine .object ?_
    simp only [List.forall_mem_cons]
    exact ⟨.string _, .string _, nofun⟩
  have hclosed (c : ObjectId) : (closedToJson c).Readable :=
    .object (List.forall_mem_singleton.2 (.string c))
  refine .object ?_
  simp only [List.forall_mem_cons]
  exact ⟨readable_map fun p _ ↦ hplacement p, readable_map fun p _ ↦ hplacement p,
    readable_map fun c _ ↦ hclosed c, nofun⟩

theorem depth_toJson_le (r : RelationSet) : r.toJson.depth ≤ 3 := by
  refine Nat.succ_le_succ (depthMembers_le ?_)
  simp only [List.forall_mem_cons]
  exact ⟨depth_map_le fun _ _ ↦ Nat.le_refl 1, depth_map_le fun _ _ ↦ Nat.le_refl 1,
    depth_map_le fun _ _ ↦ Nat.le_refl 1, nofun⟩

end RelationSet

theorem SceneDocument.ofJson?_toJson (d : SceneDocument Float) :
    SceneDocument.ofJson? d.toJson = some d := by
  have hobjects : list? SceneObject.ofJson? (.array (d.objects.map SceneObject.toJson)) =
      some d.objects := list?_map fun o _ ↦ SceneObject.ofJson?_toJson o
  change (do
    let objects ← list? SceneObject.ofJson? (.array (d.objects.map SceneObject.toJson))
    return (⟨d.taskId, objects⟩ : SceneDocument Float)) = some d
  rw [hobjects]
  rfl

namespace SceneBundle

theorem ofJson?_toJson (b : SceneBundle Float) : ofJson? b.toJson = some b := by
  change (do
    let scene ← SceneDocument.ofJson? b.scene.toJson
    let lids ← LidMap.ofJson? b.lids.toJson
    let relations ← RelationSet.ofJson? b.relations.toJson
    return (⟨scene, b.image, lids, relations⟩ : SceneBundle Float)) = some b
  rw [SceneDocument.ofJson?_toJson, LidMap.ofJson?_toJson, RelationSet.ofJson?_toJson]
  rfl

theorem readable {b : SceneBundle Float}
    (h : ∀ o ∈ b.scene.objects, o.pose.All IsFinite ∧ o.size.All IsFinite) : b.toJson.Readable := by
  have hscene : b.scene.toJson.Readable := by
    refine .object ?_
    simp only [List.forall_mem_cons]
    exact ⟨.string _, readable_map fun o ho ↦ SceneObject.readable (h o ho).1 (h o ho).2, nofun⟩
  refine .object ?_
  simp only [List.forall_mem_cons]
  exact ⟨hscene, .string _, b.lids.readable, b.relations.readable, nofun⟩

/-- What is written of a bundle is read as the bundle. -/
theorem read?_compact {b : SceneBundle Float}
    (h : ∀ o ∈ b.scene.objects, o.pose.All IsFinite ∧ o.size.All IsFinite) :
    read? b.toJson.compact = some b := by
  rw [read?, Json.read?_compact (readable h)]
  exact ofJson?_toJson b

end SceneBundle

namespace SavePayload

variable {p : SavePayload Float}

theorem ofJson?_toJson (p : SavePayload Float) : ofJson? p.toJson = some p := by
  change (do
    let actions ← Action.listOfJson? (Action.listToJson p.actions)
    let relations ← RelationSet.ofJson? p.relations.toJson
    return (⟨actions, relations⟩ : SavePayload Float)) = some p
  rw [Action.listOfJson?_listToJson, RelationSet.ofJson?_toJson]
  rfl

theorem readable (h : ∀ a ∈ p.actions, a.pose.All IsFinite) : p.toJson.Readable := by
  refine .object ?_
  simp only [List.forall_mem_cons]
  exact ⟨Action.readable_list h, p.relations.readable, nofun⟩

theorem depth_toJson_le (p : SavePayload Float) : p.toJson.depth ≤ 4 := by
  refine Nat.succ_le_succ (depthMembers_le ?_)
  simp only [List.forall_mem_cons]
  exact ⟨Action.depth_listToJson_le p.actions, p.relations.depth_toJson_le, nofun⟩

end SavePayload

namespace Action

/-- A text that is read as a list of actions gives that list. -/
theorem readList?_of_read? {text : String} {j : Json} (hread : Json.read? text = some j)
    (hj : j.Readable) (hdepth : j.depth ≤ depthLimit) :
    readList? text = match listOfJson? j with
      | some as => some as
      | none => (SavePayload.ofJson? j).map (·.actions) := by
  rw [readList?, hread]
  change (do
    let j ← j.whole?
    match listOfJson? j with
    | some as => some as
    | none => (SavePayload.ofJson? j).map SavePayload.actions) = _
  rw [whole?_of_readable hj hdepth]
  rfl

/-- The file of a trajectory spells its actions. -/
theorem readList?_trajectoryText {as : List (Action Float)} (h : ∀ a ∈ as, a.pose.All IsFinite) :
    readList? (Store.trajectoryText as) = some as := by
  have hdepth := depth_listToJson_le as
  rw [Store.trajectoryText, readList?_of_read? (read?_pretty (readable_list h)) (readable_list h)
    (Nat.le_trans hdepth (by decide)), listOfJson?_listToJson]

/-- The body of a save is no list, so it is read as a payload. -/
theorem readList?_compact {p : SavePayload Float} (h : ∀ a ∈ p.actions, a.pose.All IsFinite) :
    readList? p.toJson.compact = some p.actions := by
  have hreadable := SavePayload.readable h
  have hlist : listOfJson? p.toJson = none := rfl
  rw [readList?_of_read? (read?_compact hreadable) hreadable
    (Nat.le_trans p.depth_toJson_le (by decide)), hlist]
  change (SavePayload.ofJson? p.toJson).map (·.actions) = _
  rw [SavePayload.ofJson?_toJson]
  rfl

end Action

theorem Json.ofBytes?_toUTF8 (s : String) : Json.ofBytes? s.toUTF8 = Json.read? s := by
  have hvalid : String.fromUTF8? s.toUTF8 = some s := dif_pos s.isValidUTF8
  rw [Json.ofBytes?, hvalid]

/-- What is saved comes back, for doubles that are finite: the file of actions and the body of a
save are read as the actions, the service decodes the body to the payload, and a bundle that it
sends is the bundle that is loaded. -/
theorem saved_reads_back {p : SavePayload Float} {b : SceneBundle Float}
    (hp : ∀ a ∈ p.actions, a.pose.All IsFinite)
    (hb : ∀ o ∈ b.scene.objects, o.pose.All IsFinite ∧ o.size.All IsFinite) :
    (CommandLine.actionsOf (Store.trajectoryText p.actions) = .ok p.actions ∧
      CommandLine.actionsOf p.toJson.compact = .ok p.actions) ∧
        Service.payload? p.toJson.compact.toUTF8 = some p ∧
          Annotator.bundleOf b.toJson.compact = .ok b := by
  refine ⟨⟨?_, ?_⟩, ?_, ?_⟩
  · rw [CommandLine.actionsOf, Action.readList?_trajectoryText hp]
  · rw [CommandLine.actionsOf, Action.readList?_compact hp]
  · rw [Service.payload?, Json.ofBytes?_toUTF8, Json.read?_compact (SavePayload.readable hp)]
    exact p.ofJson?_toJson
  · rw [Annotator.bundleOf, SceneBundle.read?_compact hb]

/-- Names with quotes and line ends, the least double and one of the largest, and a zero with its
sign. -/
theorem saved_reads_back_kitchen :
    let p : SavePayload Float := ⟨[
      ⟨.putIn, "cup \"α\"", some "bowl\n", ⟨⟨0.1, -0, 1.5e300⟩, 5e-324⟩⟩,
      ⟨.rotate, "", none, ⟨⟨-7, 1e15, 1e16⟩, 359.99⟩⟩],
      ⟨[], [⟨"cup \"α\"", "bowl\n"⟩], ["bowl\n"]⟩⟩
    let b : SceneBundle Float := ⟨⟨"kitchen",
      [⟨"bowl\n", "bowl", .container, ⟨0.3, 2, -0⟩, 90, ⟨1, 1, 0.5⟩, some true⟩,
        ⟨"lid", "lid", .unclassified, ⟨1, 2, 3⟩, 0, ⟨1, 1, 0.1⟩, none⟩]⟩,
      "kitchen.png", .ofList [("bowl\n", "lid")], .empty⟩
    (CommandLine.actionsOf (Store.trajectoryText p.actions) = .ok p.actions ∧
      CommandLine.actionsOf p.toJson.compact = .ok p.actions) ∧
        Service.payload? p.toJson.compact.toUTF8 = some p ∧
          Annotator.bundleOf b.toJson.compact = .ok b := by
  intro p b
  exact saved_reads_back (by decide +kernel) (by decide +kernel)

end Rearrangement
