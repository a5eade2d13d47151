import Rearrangement.Proofs.Session.Journal
import Rearrangement.Proofs.Session.Seating

/-!
# Containers that share a lid

A lid map may give one lid to several containers, and a moved lid opens only the first of them.  So
closing the first one leaves the others as they are, and then one lid closes two containers
(`one_lid_closes_two`).  There is no other way to come to this: as long as no container is closed
with a lid that also closes another one which is not the first, each closed container has its lid to
itself (`exclusive_run_iff`).

## Main statements

* `mem_closed_carry`: what an action leaves closed.
* `Exclusive.carry_iff`: when an action keeps lids apart.
* `exclusive_run_iff`: when a run does, from a scene in which they are.
* `one_lid_closes_two`: a run that does not.

The condition on a run is one on its operations, each in the session that it finds (`Along`), so
that it can be checked as the run goes on.  It is exact: an operation that does not keep lids apart
leaves two containers closed by one lid at once (`prefixes_iff_along`).
-/

namespace Rearrangement

open Scalar

variable {R : Type}

/-! ## Actions -/

namespace Table

variable {t : Table R} {a : Action R} {c : ObjectId}

/-- No two closed containers have the same lid. -/
def Exclusive (t : Table R) : Prop :=
  ∀ c ∈ t.relations.closed, ∀ d ∈ t.relations.closed, ∀ l ∈ t.lids.lidFor? c,
    t.lids.lidFor? d = some l → c = d

instance : Decidable t.Exclusive :=
  inferInstanceAs (Decidable (∀ c ∈ t.relations.closed, ∀ d ∈ t.relations.closed,
    ∀ l ∈ t.lids.lidFor? c, t.lids.lidFor? d = some l → c = d))

/-- The action closes a container with its lid while another one that has this lid is closed, and is
not the first one that has it. -/
def Doubles (t : Table R) (a : Action R) : Prop :=
  ∃ d ∈ RelationSet.sealed t.lids a.object a.kind a.reference, ∃ c ∈ t.relations.closed,
    c ≠ d ∧ t.lids.lidFor? c = some a.object ∧ t.lids.containerFor? a.object ≠ some c

instance : Decidable (t.Doubles a) :=
  inferInstanceAs (Decidable (∃ d ∈ RelationSet.sealed t.lids a.object a.kind a.reference,
    ∃ c ∈ t.relations.closed, c ≠ d ∧ t.lids.lidFor? c = some a.object ∧
      t.lids.containerFor? a.object ≠ some c))

/-- Of the containers that it does not close, an action leaves closed those that were, except the
first one with the moved lid and the one that it is to open. -/
theorem mem_closed_carry (h : ¬(a.kind = .closeLid ∧ a.reference = some c)) :
    c ∈ (t.carry a).relations.closed ↔ c ∈ t.relations.closed ∧
      t.lids.containerFor? a.object ≠ some c ∧ ¬(a.kind = .openLid ∧ a.reference = some c) := by
  have hsealed : c ∉ RelationSet.sealed t.lids a.object a.kind a.reference := by
    intro hc
    obtain ⟨hkind, hreference, -⟩ := RelationSet.mem_sealed.1 hc
    exact h ⟨hkind, hreference⟩
  refine RelationSet.mem_closed_update.trans ?_
  rw [or_iff_left hsealed, RelationSet.Opens, not_or, not_and, not_not]
  refine and_congr_right fun _ ↦ and_congr_left fun _ ↦ ?_
  exact ⟨fun hc hfirst ↦ h (hc hfirst), fun hc hfirst ↦ absurd hfirst hc⟩

/-- An action keeps lids apart unless it closes a second container with a lid. -/
theorem Exclusive.carry_iff (h : t.Exclusive) : (t.carry a).Exclusive ↔ ¬t.Doubles a := by
  constructor
  · rintro hcarry ⟨d, hd, c, hc, hne, hlid, hfirst⟩
    obtain ⟨hkind, hreference, hlid'⟩ := RelationSet.mem_sealed.1 hd
    refine hne (hcarry c ?_ d (RelationSet.mem_closed_update.2 (.inr hd)) _ hlid hlid')
    have hother : ¬(a.kind = .closeLid ∧ a.reference = some c) := fun ⟨_, hc⟩ ↦
      hne (Option.some.inj (hc.symm.trans hreference))
    exact (mem_closed_carry hother).2 ⟨hc, hfirst, fun ⟨hopen, _⟩ ↦ nomatch hopen.symm.trans hkind⟩
  · intro hdoubles
    -- a container that is closed now and another one that stays closed have different lids
    have hkept (d : ObjectId) (hd : d ∈ RelationSet.sealed t.lids a.object a.kind a.reference)
        (c : ObjectId) (hc : c ∈ t.relations.closed)
        (hopens : ¬RelationSet.Opens t.lids a.object a.kind a.reference c)
        (hlid : t.lids.lidFor? c = some a.object) : c = d := by
      by_contra hne
      obtain ⟨-, hreference, -⟩ := RelationSet.mem_sealed.1 hd
      refine hdoubles ⟨d, hd, c, hc, hne, hlid, fun hfirst ↦ hopens (.inl ⟨hfirst, ?_⟩)⟩
      exact fun ⟨_, hc⟩ ↦ hne (Option.some.inj (hc.symm.trans hreference))
    intro c hc d hd l hl hl'
    change t.lids.lidFor? c = some l at hl
    change t.lids.lidFor? d = some l at hl'
    rcases RelationSet.mem_closed_update.1 hc with ⟨hc, hopens⟩ | hc <;>
      rcases RelationSet.mem_closed_update.1 hd with ⟨hd, hopens'⟩ | hd
    · exact h c hc d hd l hl hl'
    · obtain ⟨-, -, hlid⟩ := RelationSet.mem_sealed.1 hd
      exact hkept d hd c hc hopens (hl.trans (hl'.symm.trans hlid))
    · obtain ⟨-, -, hlid⟩ := RelationSet.mem_sealed.1 hc
      exact (hkept c hc d hd hopens' (hl'.trans (hl.symm.trans hlid))).symm
    · obtain ⟨-, hreference, -⟩ := RelationSet.mem_sealed.1 hc
      obtain ⟨-, hreference', -⟩ := RelationSet.mem_sealed.1 hd
      exact Option.some.inj (hreference.symm.trans hreference')

end Table

/-! ## Changes -/

/-- The action that has been carried out when an operation is over: the one that it has replayed, or
else the one that is in progress. -/
def Outcome.carried? (o : Outcome R) (phase : Phase R) : Option (Action R) :=
  o.replayed?.or phase.action

section Changes

variable [Scalar R] {w : World R} {v : Viewport R} {p q : Progress R} {op : Operation R}
  {o : Outcome R} {a : Action R}

omit [Scalar R] in
theorem replayed?_of_not_settles (h : settles op o = false) : o.replayed? = none := by
  cases o with
  | replayed => simp [settles, Outcome.replays] at h
  | _ => rfl

/-- Carrying out the action in progress once more changes nothing. -/
theorem Progress.Sound.carry_action (hp : p.Sound w) (ha : p.phase.action = some a) :
    ∃ t, p.table = some t ∧ t.carry a = t := by
  obtain ⟨before, -, htable, -⟩ := hp.exists_before ha
  exact ⟨before.carry a, htable, Table.carry_carry rfl rfl rfl⟩

/-- As long as no new scene is shown, the table is the one before with the action that has been
carried out, or the same, or put back. -/
theorem Change.carried_cases (h : Change w v op o p q) (hp : p.Sound w) (hload : o.loads = false) :
    (∃ t a, o.carried? q.phase = some a ∧ p.table = some t ∧ q.table = some (t.carry a)) ∨
      o.carried? q.phase = none ∧ (q.table = p.table ∨ q.table = p.committed) := by
  unfold Outcome.carried?
  cases h with
  | quiet hquiet hop =>
    rw [replayed?_of_not_settles hop, Option.none_or]
    -- a preview that stays may be taken as one that is carried out once more
    have hsame (htable : q.table = p.table) (haction : q.phase.action = p.phase.action) :
        (∃ t a, q.phase.action = some a ∧ p.table = some t ∧ q.table = some (t.carry a)) ∨
          q.phase.action = none ∧ (q.table = p.table ∨ q.table = p.committed) := by
      cases ha : p.phase.action with
      | none => exact .inr ⟨haction.trans ha, .inl htable⟩
      | some a =>
        obtain ⟨t, ht, hcarry⟩ := hp.carry_action ha
        exact .inl ⟨t, a, haction.trans ha, ht, by rw [htable, ht, hcarry]⟩
    cases hquiet with
    | stay | hold | letGo => exact hsame rfl rfl
    | deselect | aim | take | near | abandon => exact .inr ⟨rfl, .inl rfl⟩
    | toggle | put | follow => exact .inl ⟨_, _, rfl, rfl, rfl⟩
    | rollback hstep =>
      refine .inr ⟨rfl, .inr ?_⟩
      unfold Progress.committed
      simp only [hstep]
  | commit _ ho =>
    cases o with
    | effects => exact .inr ⟨rfl, .inl rfl⟩
    | _ => cases ho
  | replay _ _ ho => exact .inl ⟨_, _, by rw [ho]; rfl, rfl, rfl⟩
  | choose _ ho => exact .inr ⟨by rw [ho]; rfl, .inl rfl⟩
  | install _ _ ho => cases hload.symm.trans ho

/-- No two closed containers have the same lid, now and before the action in progress. -/
structure Progress.Exclusive (p : Progress R) : Prop where
  table : ∀ t ∈ p.table, t.Exclusive
  committed : ∀ t ∈ p.committed, t.Exclusive

/-- The step: a change keeps lids from being shared if the table after it does. -/
theorem Change.exclusive (h : Change w v op o p q) (hp : p.Sound w)
    (hexclusive : p.Exclusive) (hq : ∀ t ∈ q.table, t.Exclusive) : q.Exclusive := by
  refine ⟨hq, ?_⟩
  rcases h.committed_cases hp with hsame | hsettled
  · rw [hsame]
    exact hexclusive.committed
  · rw [hsettled]
    exact hq

/-- A change keeps lids apart unless a second container is closed with a lid. -/
theorem Change.exclusive_iff (h : Change w v op o p q) (hp : p.Sound w) (hload : o.loads = false)
    (hexclusive : p.Exclusive) : (∀ t ∈ q.table, t.Exclusive) ↔
      ∀ t ∈ p.table, ∀ a ∈ o.carried? q.phase, ¬t.Doubles a := by
  rcases h.carried_cases hp hload with ⟨t, a, ha, ht, hq⟩ | ⟨hnone, hq⟩
  · rw [ha, ht, hq]
    simp only [Option.mem_some_iff, forall_eq']
    exact (hexclusive.table t ht).carry_iff
  · rw [hnone]
    refine iff_of_true ?_ nofun
    rcases hq with hsame | hback
    · rw [hsame]
      exact hexclusive.table
    · rw [hback]
      exact hexclusive.committed

end Changes

/-! ## Runs -/

namespace Session

variable [Scalar R]

/-- No two closed containers have the same lid. -/
def Exclusive (s : Session R) : Prop := ∀ t ∈ s.table, t.Exclusive

instance (s : Session R) : Decidable s.Exclusive :=
  inferInstanceAs (Decidable (∀ t ∈ s.table, t.Exclusive))

/-- The action that has been carried out when the operation is over. -/
def carried? (s : Session R) (op : Operation R) : Option (Action R) :=
  (s.perform op).2.carried? (s.perform op).1.phase

/-- The operation does not close a container with a lid that closes another one already, unless that
is the first one with this lid. -/
def KeepsApart (s : Session R) (op : Operation R) : Prop :=
  ∀ t ∈ s.table, ∀ a ∈ s.carried? op, ¬t.Doubles a

instance (s : Session R) (op : Operation R) : Decidable (s.KeepsApart op) :=
  inferInstanceAs (Decidable (∀ t ∈ s.table, ∀ a ∈ s.carried? op, ¬t.Doubles a))

/-- Of the containers that the operation does not close, it leaves closed those that were, except
the first one with the lid that it moves and the one that it is to open. -/
def OpensFirst (s : Session R) (op : Operation R) : Prop :=
  ∀ a ∈ s.carried? op, ∀ c, ¬(a.kind = .closeLid ∧ a.reference = some c) →
    (c ∈ (s.perform op).1.relations.closed ↔ c ∈ s.relations.closed ∧
      s.lids.containerFor? a.object ≠ some c ∧ ¬(a.kind = .openLid ∧ a.reference = some c))

theorem Coherent.opensFirst {s : Session R} (hs : s.Coherent) {op : Operation R}
    (hload : (s.perform op).2.loads = false) : s.OpensFirst op := by
  intro a ha c hc
  have hchange := (makes_perform s op).change
  rcases hchange.carried_cases hs.sound hload with ⟨t, b, hb, ht, hq⟩ | ⟨hnone, -⟩
  · obtain rfl := Option.some.inj (ha.symm.trans hb)
    rw [relations_of_table hq, relations_of_table ht, lids_of_table ht]
    exact Table.mem_closed_carry hc
  · cases hnone.symm.trans ha

/-- No lid closes two containers throughout a run exactly if each operation keeps them apart. -/
theorem Coherent.exclusive_iff_keepsApart {s : Session R} (hs : s.Coherent)
    (hexclusive : s.progress.Exclusive) {ops : List (Operation R)} (hops : s.SameScene ops) :
    (∀ ops', ops' <+: ops → (s.run ops').Exclusive) ↔ s.Along KeepsApart ops := by
  refine prefixes_iff_along (I := fun s ↦ s.Coherent ∧ s.progress.Exclusive)
    (fun s h ↦ h.2.table) (fun s op h hload ↦ ?_) (fun s op h _ hnow ↦ ?_) ⟨hs, hexclusive⟩ hops
  · exact (makes_perform s op).change.exclusive_iff h.1.sound hload h.2
  · exact ⟨h.1.perform op, (makes_perform s op).change.exclusive h.1.sound h.2 hnow⟩

theorem Coherent.along_opensFirst {s : Session R} (hs : s.Coherent) {ops : List (Operation R)}
    (hops : s.SameScene ops) : s.Along OpensFirst ops := by
  induction ops generalizing s with
  | nil => trivial
  | cons op ops ih => exact ⟨hs.opensFirst hops.1, ih (hs.perform op) hops.2⟩

/-- After a load in which each closed container has its lid to itself, this stays so through the
whole of a run that shows no other scene exactly if no operation of the run closes a container with
a lid that closes another one already, unless that is the first one with this lid.  A moved lid
opens the first container that has it, and none of the others but the one that is to be opened. -/
theorem exclusive_run_iff (config : Config R) (before : List (Operation R)) (op : Operation R)
    (hload : (((start config).run before).perform op).2.loads) {s : Session R}
    (hs : (((start config).run before).perform op).1 = s) (hexclusive : s.Exclusive)
    {ops : List (Operation R)} (hops : s.SameScene ops) :
    ((∀ ops', ops' <+: ops → (s.run ops').Exclusive) ↔ s.Along KeepsApart ops) ∧
      s.Along OpensFirst ops := by
  have hcoherent : ((start config).run before).Coherent := (coherent_start config).run before
  have hchange := (makes_perform ((start config).run before) op).change
  have hcommitted := hchange.committed_of_settles (by simp [settles, hload])
  subst hs
  have hkept : (((start config).run before).perform op).1.progress.Exclusive := by
    refine ⟨hexclusive, ?_⟩
    rw [hcommitted]
    exact hexclusive
  exact ⟨(hcoherent.perform op).exclusive_iff_keepsApart hkept hops,
    (hcoherent.perform op).along_opensFirst hops⟩

/-- The lid is moved from the bowl, which is the first to have it, to the pot, back by giving up and
over again. -/
theorem exclusive_run_iff_moved :
    let s := (start Kitchen.config).run [Kitchen.loadShared]
    let ops := [.choose .closeLid, .clickObject "bowl", .finish, .choose .closeLid,
      .clickObject "pot", .cancel, .replay ⟨.closeLid, "lid", some "pot", ⟨⟨1, 1, 1⟩, 0⟩⟩]
    (s.run ops).relations.closed = ["pot"] ∧ ∀ ops', ops' <+: ops → (s.run ops').Exclusive := by
  intro s ops
  have hapart : s.Along KeepsApart ops := by decide +kernel
  refine ⟨by decide +kernel, (exclusive_run_iff Kitchen.config [] Kitchen.loadShared
    (by decide +kernel) rfl ?_ ?_).1.2 hapart⟩
  all_goals decide +kernel

/-- The pot is closed with the lid, and then the bowl, which is the first one to have it: both are
closed now. -/
theorem one_lid_closes_two :
    ((start Kitchen.config).run [Kitchen.loadShared]).Exclusive ∧
      ¬((start Kitchen.config).run [Kitchen.loadShared, .choose .closeLid, .clickObject "pot",
        .finish, .choose .closeLid, .clickObject "bowl"]).Exclusive := by
  constructor
  all_goals decide +kernel

end Session

end Rearrangement
