import Rearrangement.Proofs.Relations.Update

/-!
# Relations in normal form

Relations at the start may say that a lid is on its own container, which is to say that the
container is closed.  `RelationSet.normalize` says it in the one way that is used later on.
`Normalizes` tells what it makes of relations, whatever they are: facts may be repeated, lids shared
and containers closed already.  To normalize is to arrive: done again it changes nothing
(`normalize_normalize`).

## Main statements

* `on_normalize`, `mem_closings`: what becomes of the lids that are said to be on their containers.
* `closings_normalize`: none is left.
* `normalize_normalize`: so there is nothing to do the second time.
* `normalizes_normalize`: the specification, for any relations and lids.
-/

namespace Rearrangement

section Distinct

variable {α : Type} [DecidableEq α]

theorem isPrefix_distinct_append (xs ys : List α) : distinct xs <+: distinct (xs ++ ys) := by
  rw [distinct_append]
  exact List.prefix_append _ _

/-- What is left stands in the order in which it occurred first. -/
theorem pairwise_idxOf_distinct (xs : List α) :
    (distinct xs).Pairwise fun x y ↦ xs.idxOf x < xs.idxOf y := by
  induction xs with
  | nil => exact .nil
  | cons z zs ih =>
    have hidx {y : α} (hy : y ∈ (distinct zs).filter (· ≠ z)) :
        (z :: zs).idxOf y = zs.idxOf y + 1 := by
      have hne : y ≠ z := by simpa using (List.mem_filter.1 hy).2
      rw [List.idxOf_cons, beq_false_of_ne hne.symm, cond_false]
    refine List.pairwise_cons.2 ⟨fun y hy ↦ ?_, ?_⟩
    · rw [List.idxOf_cons_self, hidx hy]
      exact Nat.succ_pos _
    · refine (ih.sublist List.filter_sublist).imp_of_mem fun hx hy hlt ↦ ?_
      rw [hidx hx, hidx hy]
      exact Nat.succ_lt_succ hlt

end Distinct

namespace RelationSet

variable {r : RelationSet} {lids : LidMap} {p : Placement} {c : ObjectId}

/-- The containers that are said to be closed, by a fact of their own or by where their lid is, in
the order in which that is said. -/
def closings (r : RelationSet) (lids : LidMap) : List ObjectId :=
  r.closed ++ (r.on.filter (seated lids)).map (·.anchor)

/-- One set of relations says in normal form what another one says. -/
structure Normalizes (lids : LidMap) (r r' : RelationSet) : Prop where
  /-- No lid is on its own container. -/
  unseated : ∀ p ∈ r'.on, lids.lidFor? p.anchor ≠ some p.object
  /-- Whatever else is on something stays there, in the same order. -/
  on : r'.on = r.on.filter fun p ↦ lids.lidFor? p.anchor ≠ some p.object
  inside : r'.inside = r.inside
  nodup : r'.closed.Nodup
  /-- A container is closed if it was before or if its lid was on it. -/
  mem_closed : ∀ c, c ∈ r'.closed ↔
    c ∈ r.closed ∨ ∃ p ∈ r.on, p.anchor = c ∧ lids.lidFor? c = some p.object
  /-- Those that were closed before come first. -/
  earlier : distinct r.closed <+: r'.closed
  /-- Each comes where it is said to be closed for the first time. -/
  order : r'.closed.Pairwise fun c d ↦ (r.closings lids).idxOf c < (r.closings lids).idxOf d
  /-- There is nothing more to do. -/
  settled : r'.normalize lids = r'

theorem seated_eq_true : seated lids p = true ↔ lids.lidFor? p.anchor = some p.object :=
  decide_eq_true_iff

/-- A container is closed if it is said to be, or if its lid is said to be on it. -/
theorem mem_closings : c ∈ r.closings lids ↔
    c ∈ r.closed ∨ ∃ p ∈ r.on, p.anchor = c ∧ lids.lidFor? c = some p.object := by
  rw [closings, List.mem_append]
  refine or_congr_right ?_
  simp only [List.mem_map, List.mem_filter, seated_eq_true]
  constructor
  · rintro ⟨p, ⟨hp, hseated⟩, rfl⟩
    exact ⟨p, hp, rfl, hseated⟩
  · rintro ⟨p, hp, rfl, hseated⟩
    exact ⟨p, ⟨hp, hseated⟩, rfl⟩

theorem closed_normalize : (r.normalize lids).closed = distinct (r.closings lids) := rfl

/-- A lid on its container is not also kept as an object on another. -/
theorem on_normalize :
    (r.normalize lids).on = r.on.filter fun p ↦ lids.lidFor? p.anchor ≠ some p.object :=
  List.filter_congr fun _ _ ↦ (decide_not).symm

/-- In normal form there is no lid left that closes anything. -/
theorem closings_normalize : (r.normalize lids).closings lids = (r.normalize lids).closed := by
  have hnone : (r.normalize lids).on.filter (seated lids) = [] := by
    rw [List.filter_eq_nil_iff, on_normalize]
    intro p hp hseated
    have hne : lids.lidFor? p.anchor ≠ some p.object := by simpa using (List.mem_filter.1 hp).2
    exact hne (seated_eq_true.1 hseated)
  rw [closings, hnone]
  exact List.append_nil _

/-- Relations in normal form stay as they are. -/
theorem normalize_normalize (r : RelationSet) (lids : LidMap) :
    (r.normalize lids).normalize lids = r.normalize lids := by
  have hon : ((r.normalize lids).normalize lids).on = (r.normalize lids).on := by
    rw [on_normalize, on_normalize, List.filter_filter]
    exact List.filter_congr fun _ _ ↦ Bool.and_self _
  have hclosed : ((r.normalize lids).normalize lids).closed = (r.normalize lids).closed := by
    rw [closed_normalize, closings_normalize]
    exact distinct_of_nodup (nodup_distinct _)
  calc
    _ = ⟨((r.normalize lids).normalize lids).on, (r.normalize lids).inside,
          ((r.normalize lids).normalize lids).closed⟩ := rfl
    _ = r.normalize lids := by rw [hon, hclosed]

/-- Whatever relations say, this is what they are normalized to. -/
theorem normalizes_normalize (r : RelationSet) (lids : LidMap) :
    Normalizes lids r (r.normalize lids) where
  unseated p hp := by
    rw [on_normalize] at hp
    simpa using (List.mem_filter.1 hp).2
  on := on_normalize
  inside := rfl
  nodup := nodup_distinct _
  mem_closed c := mem_distinct.trans mem_closings
  earlier := isPrefix_distinct_append _ _
  order := pairwise_idxOf_distinct _
  settled := normalize_normalize r lids

end RelationSet

end Rearrangement
