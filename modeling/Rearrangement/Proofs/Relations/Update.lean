import Rearrangement.Relations

/-!
# What an update does to relations

An update is made of two steps, `lift` and `settle`, with one branch for each kind of action.  All
that is ever needed of it are the three lists that come out: an object that moves leaves `on` and
`inside` and enters at most one of them at the end (`on_update`, `inside_update`), and the closed
containers are those that the action does not open, followed by the one that it closes
(`closed_update`).  Nothing later unfolds an update.

Three facts follow from the lists alone.

* `update_same` : the second update for the same object, action and context changes nothing, which
  is why a preview may update the relations again and again;
* `validate_eq_ok` : what `validate` looks for is `Valid`, no object in two places and no container
  closed twice;
* `Valid.update` : an update keeps that, whatever the lids are, for what the moved object was on or
  in is given up before it gets a new place, and a container that is closed again is listed once.
-/

namespace Rearrangement

/-! ## The parts of an update -/

/-! ### Repetition -/

section Distinct

variable {α : Type} [DecidableEq α]

/-- Repetitions are taken out of the second list as far as the first one has them. -/
theorem distinct_append (xs ys : List α) :
    distinct (xs ++ ys) = distinct xs ++ (distinct ys).filter (· ∉ xs) := by
  induction xs with
  | nil => simp [distinct, List.filter_eq_self.2]
  | cons x xs ih =>
    simp only [List.cons_append, distinct, ih, List.filter_append, List.filter_filter,
      List.mem_cons]
    congr 2
    refine List.filter_congr fun y _ ↦ ?_
    simp

theorem distinct_of_nodup {xs : List α} (h : xs.Nodup) : distinct xs = xs := by
  induction xs with
  | nil => rfl
  | cons x xs ih =>
    obtain ⟨hx, hxs⟩ := List.nodup_cons.1 h
    rw [distinct, ih hxs, List.filter_eq_self.2]
    intro y hy
    exact decide_eq_true (ne_of_mem_of_not_mem hy hx)

/-- What occurs already need not be appended. -/
theorem distinct_distinct_append {xs ys : List α} (h : ∀ y ∈ ys, y ∈ xs) :
    distinct (distinct xs ++ ys) = distinct xs := by
  rw [distinct_append, distinct_of_nodup (nodup_distinct xs), List.filter_eq_nil_iff.2,
    List.append_nil]
  intro y hy
  simp [h y (mem_distinct.1 hy)]

end Distinct

namespace RelationSet

variable (r : RelationSet) (lids : LidMap) (moved : ObjectId) (kind : ActionKind)
  (context : Option ObjectId)

/-! ### The facts of an action -/

/-- What an action puts its object on. -/
def stacked (moved : ObjectId) : ActionKind → Option ObjectId → List Placement
  | .putOn, some anchor => [⟨moved, anchor⟩]
  | _, _ => []

/-- What an action puts its object in. -/
def nested (moved : ObjectId) : ActionKind → Option ObjectId → List Placement
  | .putIn, some anchor => [⟨moved, anchor⟩]
  | _, _ => []

/-- The container that an action closes, with its own lid. -/
def sealed (lids : LidMap) (moved : ObjectId) : ActionKind → Option ObjectId → List ObjectId
  | .closeLid, some c => if lids.lidFor? c = some moved then [c] else []
  | _, _ => []

/-- The action opens `c`: it moves the lid of `c` and not to close `c` with it, or it says so. -/
def Opens (c : ObjectId) : Prop :=
  (lids.containerFor? moved = some c ∧ ¬(kind = .closeLid ∧ context = some c)) ∨
    (kind = .openLid ∧ context = some c)

instance (c : ObjectId) : Decidable (Opens lids moved kind context c) :=
  inferInstanceAs (Decidable (_ ∨ _))

theorem mem_sealed {lids : LidMap} {moved : ObjectId} {kind : ActionKind}
    {context : Option ObjectId} {c : ObjectId} :
    c ∈ sealed lids moved kind context ↔
      kind = .closeLid ∧ context = some c ∧ lids.lidFor? c = some moved := by
  cases kind <;> cases context <;> simp only [sealed] <;> grind

/-- No action opens the container that it closes. -/
theorem not_opens_of_mem_sealed {lids : LidMap} {moved : ObjectId} {kind : ActionKind}
    {context : Option ObjectId} {c : ObjectId} (h : c ∈ sealed lids moved kind context) :
    ¬Opens lids moved kind context c := by
  obtain ⟨rfl, rfl, -⟩ := mem_sealed.1 h
  rintro (⟨-, hown⟩ | ⟨hkind, -⟩)
  · exact hown ⟨rfl, rfl⟩
  · cases hkind

/-! ### The three lists -/

theorem on_lift : (r.lift lids moved kind context).on = r.on.filter (·.object ≠ moved) := by
  unfold lift
  split
  · split <;> rfl
  · rfl

theorem inside_lift :
    (r.lift lids moved kind context).inside = r.inside.filter (·.object ≠ moved) := by
  unfold lift
  split
  · split <;> rfl
  · rfl

/-- The list `on` after an update: everything but the object moved, and then what that is on now. -/
theorem on_update : (r.update lids moved kind context).on =
    r.on.filter (·.object ≠ moved) ++ stacked moved kind context := by
  rw [← on_lift r lids moved kind context]
  unfold update
  generalize r.lift lids moved kind context = r'
  cases kind <;> cases context <;> simp only [settle, stacked, List.append_nil, reopen]
  split <;> rfl

/-- So it is for `in`. -/
theorem inside_update : (r.update lids moved kind context).inside =
    r.inside.filter (·.object ≠ moved) ++ nested moved kind context := by
  rw [← inside_lift r lids moved kind context]
  unfold update
  generalize r.lift lids moved kind context = r'
  cases kind <;> cases context <;> simp only [settle, nested, List.append_nil, reopen]
  split <;> rfl

theorem closed_lift : (r.lift lids moved kind context).closed = r.closed.filter fun c ↦
    ¬(lids.containerFor? moved = some c ∧ ¬(kind = .closeLid ∧ context = some c)) := by
  unfold lift
  split
  next c hc =>
    split
    next hown =>
      obtain ⟨rfl, rfl⟩ := hown
      refine (List.filter_eq_self.2 fun d _ ↦ ?_).symm
      simp [hc]
    next hown =>
      refine List.filter_congr fun d _ ↦ ?_
      by_cases hd : d = c
      · subst hd; simp [hc, hown]
      · simp [hc, hd, Ne.symm hd]
  next hc => exact (List.filter_eq_self.2 fun d _ ↦ by simp [hc]).symm

theorem closed_settle : (r.settle lids moved kind context).closed =
    r.closed.filter (fun c ↦ ¬(kind = .openLid ∧ context = some c)) ++
      sealed lids moved kind context := by
  have hself (p : ObjectId → Bool) (h : ∀ c, p c = true) : r.closed.filter p = r.closed :=
    List.filter_eq_self.2 fun c _ ↦ h c
  cases kind <;> cases context <;> simp only [settle, sealed, List.append_nil]
  case openLid.some c => exact List.filter_congr fun d _ ↦ by simp [eq_comm]
  case closeLid.some c => rw [hself _ (by simp)]; split <;> simp
  all_goals rw [hself _ (by simp)]

/-- The list `closed` after an update: what was closed and is not opened by it, and then what is
sealed. -/
theorem closed_update : (r.update lids moved kind context).closed =
    distinct (r.closed.filter (fun c ↦ ¬Opens lids moved kind context c) ++
      sealed lids moved kind context) := by
  change distinct ((r.lift lids moved kind context).settle lids moved kind context).closed = _
  rw [closed_settle, closed_lift, List.filter_filter]
  congr 2
  refine List.filter_congr fun c _ ↦ ?_
  rw [← Bool.decide_and]
  exact decide_eq_decide.2 (by rw [Opens, not_or, and_comm])

/-- The same as to membership. -/
theorem mem_closed_update {r : RelationSet} {lids : LidMap} {moved : ObjectId} {kind : ActionKind}
    {context : Option ObjectId} {c : ObjectId} :
    c ∈ (r.update lids moved kind context).closed ↔
      (c ∈ r.closed ∧ ¬Opens lids moved kind context c) ∨ c ∈ sealed lids moved kind context := by
  simp [closed_update]

/-! ### Updating twice -/

theorem filter_stacked : (stacked moved kind context).filter (·.object ≠ moved) = [] := by
  unfold stacked
  split <;> simp

theorem filter_nested : (nested moved kind context).filter (·.object ≠ moved) = [] := by
  unfold nested
  split <;> simp

/-- An update made twice is made once. -/
theorem update_same : (r.update lids moved kind context).update lids moved kind context =
    r.update lids moved kind context := by
  rw [RelationSet.mk.injEq]
  refine ⟨?_, ?_, ?_⟩
  · rw [on_update, on_update, List.filter_append, filter_stacked, List.filter_filter]
    simp
  · rw [inside_update, inside_update, List.filter_append, filter_nested, List.filter_filter]
    simp
  · have hkeep : ∀ c ∈ (r.update lids moved kind context).closed,
        ¬Opens lids moved kind context c := by
      intro c hc
      rcases mem_closed_update.1 hc with ⟨-, h⟩ | h
      · exact h
      · exact not_opens_of_mem_sealed h
    rw [closed_update _ lids, List.filter_eq_self.2 fun c hc ↦ decide_eq_true (hkeep c hc),
      closed_update, distinct_distinct_append]
    intro c hc
    exact List.mem_append_right _ hc

end RelationSet

/-! ## Relations that hold together -/

namespace RelationSet

/-- No object is placed twice, and no container is listed twice as closed. -/
structure Valid (r : RelationSet) : Prop where
  placements : ((r.on ++ r.inside).map (·.object)).Nodup
  closed : r.closed.Nodup

variable {r : RelationSet} {lids : LidMap} {moved : ObjectId} {kind : ActionKind}
  {context : Option ObjectId}

/-- The check accepts exactly the valid relations. -/
theorem validate_eq_ok : r.validate = .ok () ↔ r.Valid := by
  unfold validate
  constructor
  · intro h
    split at h
    next => cases h
    next hplacements =>
      split at h
      next => cases h
      next hclosed =>
        exact ⟨firstRepeated?_eq_none.1 hplacements, firstRepeated?_eq_none.1 hclosed⟩
  · rintro ⟨hplacements, hclosed⟩
    rw [firstRepeated?_eq_none.2 hplacements, firstRepeated?_eq_none.2 hclosed]

theorem valid_empty : empty.Valid := ⟨.nil, .nil⟩

/-- An action places at most the object that it moves. -/
theorem map_object_placed (moved : ObjectId) (kind : ActionKind) (context : Option ObjectId) :
    ((stacked moved kind context ++ nested moved kind context).map (·.object)).Sublist [moved] := by
  cases kind <;> cases context <;> simp [stacked, nested]

/-- An update keeps relations valid, whatever is moved. -/
theorem Valid.update (h : r.Valid) : (r.update lids moved kind context).Valid := by
  obtain ⟨hplacements, -⟩ := h
  refine ⟨?_, ?_⟩
  · have hperm : List.Perm
        ((r.update lids moved kind context).on ++ (r.update lids moved kind context).inside)
        ((stacked moved kind context ++ nested moved kind context) ++
          (r.on ++ r.inside).filter (·.object ≠ moved)) := by
      refine List.perm_iff_count.2 fun p ↦ ?_
      rw [on_update, inside_update, List.filter_append]
      simp only [List.count_append]
      omega
    have hleft : (((r.on ++ r.inside).filter (·.object ≠ moved)).map (·.object)).Nodup :=
      hplacements.sublist (List.filter_sublist.map _)
    rw [(hperm.map _).nodup_iff, List.map_append, List.nodup_append]
    have hplaced := map_object_placed moved kind context
    refine ⟨List.Nodup.sublist hplaced (by simp), hleft, ?_⟩
    rintro x hx _ hy rfl
    obtain rfl : x = moved := List.mem_singleton.1 (hplaced.subset hx)
    obtain ⟨p, hp, rfl⟩ := List.mem_map.1 hy
    exact of_decide_eq_true (List.mem_filter.1 hp).2 rfl
  · rw [closed_update]
    exact nodup_distinct _

end RelationSet

end Rearrangement
