import Rearrangement.Proofs.Session.Rollback

/-!
# Closed containers and their lids

A container is said to be closed because an action closed it; where its lid is now is another
question.  The action that closes it puts the lid where it belongs, and from then on an action moves
the lid or the container, not both at once (`Table.rel_fit?_carry`).  Moving the lid opens the
container, if it is the first one that has this lid.  So a run that starts with the lid seated keeps
it seated exactly if no step leaves the container closed that moves the container, or moves the lid
while it counts as the lid of another one (`seated_run_iff`).

Such steps exist.  A closed container that is moved leaves its lid behind and is closed all the
same, and so is one that shares its lid (`closed_not_seated`).

## Main statements

* `Table.rel_fit?_carry`: an action leaves alone the lid or the place where it belongs.
* `Change.keeps`, `Change.rests`: a change keeps the lid seated exactly if it rests.
* `seated_run_iff`: so does a run.
* `closed_not_seated`: three runs that do not.
-/

namespace Rearrangement

open Scalar

variable {R : Type}

namespace Table

variable [Scalar R] {t u : Table R} {a : Action R} {c l : ObjectId}

/-- Where the lid `l` is, and where closing the container `c` puts it. -/
def fit? (t : Table R) (c l : ObjectId) : Option (Vec3 R × Vec3 R) :=
  (t.scene.get? l).bind fun o ↦ (t.scene.get? c).map fun d ↦ (o.position, (o.closing d).position)

theorem fit?_eq_some {f : Vec3 R × Vec3 R} : t.fit? c l = some f ↔
    ∃ o d, t.scene.get? l = some o ∧ t.scene.get? c = some d ∧
      f = (o.position, (o.closing d).position) := by
  simp only [fit?, Option.bind_eq_some_iff, Option.map_eq_some_iff]
  grind

/-- If the container `c` is closed, `l` is where closing it puts its lid. -/
def Seated (c l : ObjectId) (t : Table R) : Prop :=
  c ∈ t.relations.closed → ∀ f ∈ t.fit? c l, f.1 = f.2

instance [DecidableEq R] : Decidable (t.Seated c l) := inferInstanceAs (Decidable (_ → _))

/-- If the container `c` is closed on both tables, its lid `l` belongs in the same place on both;
and if `l` counts as the lid of another container, it is in the same place on both. -/
def Rests (c l : ObjectId) (t u : Table R) : Prop :=
  c ∈ t.relations.closed → c ∈ u.relations.closed →
    (u.fit? c l).map Prod.snd = (t.fit? c l).map Prod.snd ∧
      (t.lids.containerFor? l ≠ some c → (u.fit? c l).map Prod.fst = (t.fit? c l).map Prod.fst)

instance [DecidableEq R] : Decidable (t.Rests c l u) := inferInstanceAs (Decidable (_ → _ → _))

/-- A lid rests if it fits as it did. -/
theorem rests_of_fit?_eq (h : c ∈ t.relations.closed → c ∈ u.relations.closed →
    u.fit? c l = t.fit? c l) : t.Rests c l u := by
  intro ht hu
  rw [h ht hu]
  exact ⟨rfl, fun _ ↦ rfl⟩

/-- The action, if it closes a container, finds it open and puts the lid where it belongs. -/
def Seats (t : Table R) (a : Action R) : Prop :=
  a.kind = .closeLid → ∀ c ∈ a.reference, c ∉ t.relations.closed ∧
    ∀ f ∈ t.fit? c a.object, a.pose.position = f.2

omit [Scalar R] in
/-- Carrying an action out moves one object. -/
theorem get?_carry {x : ObjectId} : (t.carry a).scene.get? x =
    if x = a.object then (t.scene.get? x).map (·.withPose a.pose) else t.scene.get? x :=
  Scene.get?_setPose

/-- An action on the lid puts it where the action says. -/
theorem fit?_carry_self (hne : a.object ≠ c) :
    (t.carry a).fit? c a.object = (t.fit? c a.object).map fun f ↦ (a.pose.position, f.2) := by
  unfold fit?
  rw [get?_carry, if_pos rfl, get?_carry, if_neg hne.symm]
  cases t.scene.get? a.object <;> cases t.scene.get? c <;> rfl

/-- An action leaves alone the lid, or the place where it belongs. -/
theorem rel_fit?_carry (hne : l ≠ c) : Option.Rel (fun f g ↦ g.1 = f.1 ∨ g.2 = f.2)
    (t.fit? c l) ((t.carry a).fit? c l) := by
  by_cases hl : l = a.object
  · subst hl
    rw [fit?_carry_self hne]
    cases t.fit? c a.object with
    | none => exact .none
    | some f => exact .some (.inr rfl)
  · unfold fit?
    rw [get?_carry, if_neg hl, get?_carry]
    cases t.scene.get? l with
    | none => exact .none
    | some o =>
      cases t.scene.get? c with
      | none => split <;> exact .none
      | some d => split <;> exact .some (.inl rfl)

/-- An action on another object leaves the lid alone. -/
theorem fst_fit?_carry (hl : l ≠ a.object) :
    ((t.carry a).fit? c l).map Prod.fst = (t.fit? c l).map Prod.fst := by
  unfold fit?
  rw [get?_carry, if_neg hl, get?_carry]
  cases t.scene.get? l with
  | none => rfl
  | some o => cases t.scene.get? c <;> split <;> rfl

/-- If the lid is seated before and after an action, neither the lid nor its place has moved. -/
theorem fit?_carry_of_seated (hne : l ≠ c) (ht : t.Seated c l) (hu : (t.carry a).Seated c l)
    (hbefore : c ∈ t.relations.closed) (hafter : c ∈ (t.carry a).relations.closed) :
    (t.carry a).fit? c l = t.fit? c l := by
  have hfit := ht hbefore
  have hfit' := hu hafter
  have hrel : Option.Rel _ (t.fit? c l) ((t.carry a).fit? c l) := rel_fit?_carry hne
  generalize t.fit? c l = x at hfit hrel ⊢
  generalize (t.carry a).fit? c l = y at hfit' hrel ⊢
  cases hrel with
  | none => rfl
  | @some f g hsame =>
    have hf : f.1 = f.2 := hfit f rfl
    have hg : g.1 = g.2 := hfit' g rfl
    refine congrArg some (Prod.ext ?_ ?_)
    · rcases hsame with h | h
      · exact h
      · rw [hg, h, hf]
    · rcases hsame with h | h
      · rw [← hg, h, hf]
      · exact h

/-- An action that leaves the container closed leaves the lid alone, if it counts as the lid of that
container. -/
theorem ne_object_of_closed (hseats : t.Seats a) (hfirst : t.lids.containerFor? l = some c)
    (hbefore : c ∈ t.relations.closed) (hafter : c ∈ (t.carry a).relations.closed) :
    l ≠ a.object := by
  rintro rfl
  have hopen (hkind : a.kind = .closeLid) (hreference : a.reference = some c) : False :=
    (hseats hkind c hreference).1 hbefore
  rcases RelationSet.mem_closed_update.1 hafter with ⟨-, hopens⟩ | hsealed
  · exact hopens (.inl ⟨hfirst, fun ⟨hkind, hreference⟩ ↦ hopen hkind hreference⟩)
  · obtain ⟨hkind, hreference, -⟩ := RelationSet.mem_sealed.1 hsealed
    exact hopen hkind hreference

theorem Rests.fit?_carry (h : t.Rests c l (t.carry a)) (hseats : t.Seats a)
    (hbefore : c ∈ t.relations.closed) (hafter : c ∈ (t.carry a).relations.closed) :
    (t.carry a).fit? c l = t.fit? c l := by
  obtain ⟨hseat, hplace⟩ := h hbefore hafter
  have hplace : ((t.carry a).fit? c l).map Prod.fst = (t.fit? c l).map Prod.fst := by
    by_cases hfirst : t.lids.containerFor? l = some c
    · exact fst_fit?_carry (ne_object_of_closed hseats hfirst hbefore hafter)
    · exact hplace hfirst
  generalize t.fit? c l = x at hseat hplace ⊢
  generalize (t.carry a).fit? c l = y at hseat hplace ⊢
  cases x <;> cases y <;> simp_all [Prod.ext_iff]

/-- An action keeps the lid seated if it leaves it alone, or closes the container. -/
theorem Seated.carry (h : t.Seated c l) (hlid : t.lids.lidFor? c = some l) (hne : l ≠ c)
    (hseats : t.Seats a) (hrests : t.Rests c l (t.carry a)) : (t.carry a).Seated c l := by
  intro hclosed f hf
  by_cases hbefore : c ∈ t.relations.closed
  · rw [hrests.fit?_carry hseats hbefore hclosed] at hf
    exact h hbefore f hf
  · have hsealed : c ∈ RelationSet.sealed t.lids a.object a.kind a.reference := by
      rcases RelationSet.mem_closed_update.1 hclosed with ⟨hkept, -⟩ | hsealed
      · exact absurd hkept hbefore
      · exact hsealed
    obtain ⟨hkind, hreference, hlid'⟩ := RelationSet.mem_sealed.1 hsealed
    obtain rfl : l = a.object := Option.some.inj (hlid.symm.trans hlid')
    rw [fit?_carry_self hne] at hf
    obtain ⟨g, hg, rfl⟩ := Option.map_eq_some_iff.1 hf
    exact (hseats hkind c hreference).2 g hg

/-- Closing a container puts its lid where it belongs. -/
theorem seats_of_lidToggle {kind : ActionKind} {p : Pose R}
    (h : t.lidToggle kind c = .ok (l, p)) : t.Seats ⟨kind, l, some c, p⟩ := by
  rintro hkind _ ⟨⟩
  obtain rfl : kind = .closeLid := hkind
  obtain ⟨d, o, hd, -, ho, hclosed, rfl⟩ := lidToggle_eq_ok.1 h
  refine ⟨fun hc ↦ absurd (hclosed.2 hc) nofun, fun f hf ↦ ?_⟩
  obtain ⟨o', d', ho', hd', rfl⟩ := fit?_eq_some.1 hf
  obtain rfl := Option.some.inj (hd.symm.trans hd')
  obtain rfl := Option.some.inj (ho.symm.trans ho')
  rfl

theorem seats_of_ne (h : a.kind ≠ .closeLid) : t.Seats a := fun hkind ↦ absurd hkind h

/-- A replay that closes a container finds it open and puts the lid where it belongs. -/
theorem Replays.seats {w : World R} {p : Pose R} (h : t.Replays w a p) :
    t.Seats { a with pose := p } := by
  cases h with
  | toggle _ _ hcontainer _ htoggle =>
    obtain ⟨kind, object, reference, pose⟩ := a
    obtain rfl : reference = some _ := hcontainer
    exact seats_of_lidToggle htoggle
  | put hkind =>
    refine seats_of_ne fun hclose ↦ ?_
    rcases hkind with h | h <;> cases h.symm.trans hclose
  | drag hkind =>
    refine seats_of_ne fun hclose : a.kind = .closeLid ↦ ?_
    rw [hclose] at hkind
    cases hkind
  | rotate hkind => exact seats_of_ne fun hclose ↦ nomatch hkind.symm.trans hclose

/-- `l` is the lid of `c` on the table, and seated if `c` is closed. -/
structure Keeps (t : Table R) (m : LidMap) (c l : ObjectId) : Prop where
  lids : t.lids = m
  seated : t.Seated c l

end Table

/-! ## Changes -/

section Changes

variable [Scalar R] {w : World R} {v : Viewport R} {p q : Progress R} {op : Operation R}
  {o : Outcome R} {m : LidMap} {c l : ObjectId}

/-- As long as no new scene is shown, the table stays, is put back, or has an action carried out
that seats the lid if it closes a container. -/
theorem Change.table_cases (h : Change w v op o p q) (hp : p.Sound w) (hload : o.loads = false) :
    q.table = p.table ∨ q.table = p.committed ∨
      ∃ t a, p.table = some t ∧ q.table = some (t.carry a) ∧ t.Seats a := by
  cases h with
  | quiet hquiet =>
    cases hquiet with
    | stay | deselect | aim | take | near | hold | letGo | abandon => exact .inl rfl
    | toggle hkind htoggle =>
      exact .inr (.inr ⟨_, _, rfl, rfl, Table.seats_of_lidToggle htoggle⟩)
    | @put _ _ _ kind _ _ _ _ _ _ _ _ _ a ha =>
      obtain ⟨-, hkind, -⟩ := hp
      refine .inr (.inr ⟨_, _, rfl, rfl, Table.seats_of_ne ?_⟩)
      subst ha
      rintro rfl
      cases hkind
    | follow =>
      refine .inr (.inr ⟨_, _, rfl, rfl, Table.seats_of_ne ?_⟩)
      rintro rfl
      rcases hp.2.manual with h | h <;> cases h
    | rollback hstep =>
      refine .inr (.inl ?_)
      unfold Progress.committed
      simp only [hstep]
  | commit | choose => exact .inl rfl
  | replay _ hreplays => exact .inr (.inr ⟨_, _, rfl, rfl, hreplays.seats⟩)
  | install _ _ ho => cases hload.symm.trans ho

/-- What is certain stays certain, or the table is settled. -/
theorem Change.committed_cases (h : Change w v op o p q) (hp : p.Sound w) :
    q.committed = p.committed ∨ q.committed = q.table := by
  cases hop : settles op o with
  | false => exact .inl ((h.quiet_of_not_settles hop).committed hp)
  | true => exact .inr (h.committed_of_settles hop)

/-- The lid `l` is seated on its closed container `c`, now and before the action in progress. -/
structure Progress.Keeps (m : LidMap) (c l : ObjectId) (p : Progress R) : Prop where
  table : ∃ t ∈ p.table, t.Keeps m c l
  committed : ∃ t ∈ p.committed, t.Keeps m c l

/-- The step: a lid keeps its place through every change along which it rests. -/
theorem Change.keeps (h : Change w v op o p q) (hp : p.Sound w) (hload : o.loads = false)
    (hlid : m.lidFor? c = some l) (hne : l ≠ c) (hkeeps : p.Keeps m c l)
    (hrests : ∀ t ∈ p.table, ∀ u ∈ q.table, t.Rests c l u) : q.Keeps m c l := by
  have htable : ∃ t ∈ q.table, t.Keeps m c l := by
    rcases h.table_cases hp hload with hsame | hback | ⟨t, a, ht, hu, hseats⟩
    · rw [hsame]
      exact hkeeps.table
    · rw [hback]
      exact hkeeps.committed
    · obtain ⟨_, ht', hlids, hseated⟩ := hkeeps.table
      obtain rfl := Option.some.inj (ht.symm.trans ht')
      exact ⟨t.carry a, hu, hlids, hseated.carry (hlids ▸ hlid) hne hseats (hrests t ht _ hu)⟩
  refine ⟨htable, ?_⟩
  rcases h.committed_cases hp with hsame | hsettled
  · rw [hsame]
    exact hkeeps.committed
  · rw [hsettled]
    exact htable

/-- A change that leaves the lid seated has not moved it on its closed container. -/
theorem Change.rests (h : Change w v op o p q) (hp : p.Sound w) (hload : o.loads = false)
    (hne : l ≠ c) (hkeeps : p.Keeps m c l) (hq : ∀ u ∈ q.table, u.Seated c l) :
    ∀ t ∈ p.table, ∀ u ∈ q.table, t.Rests c l u := by
  intro t ht u hu
  refine Table.rests_of_fit?_eq fun hbefore hafter ↦ ?_
  have hself (h : p.table = q.table) : u.fit? c l = t.fit? c l := by
    obtain rfl := Option.some.inj (ht.symm.trans (h.trans hu))
    rfl
  obtain ⟨_, ht', -, hseated⟩ := hkeeps.table
  obtain rfl := Option.some.inj (ht.symm.trans ht')
  rcases h.table_cases hp hload with hsame | hback | ⟨_, a, ht', hu', -⟩
  · exact hself hsame.symm
  · rcases hp.table_cases with hcommitted | ⟨_, a, -, hcommitted, htable⟩
    · exact hself (hcommitted.trans hback.symm)
    · -- taking an action back moves what the action moved
      obtain rfl := Option.some.inj (hu.symm.trans (hback.trans hcommitted))
      obtain rfl := Option.some.inj (ht.symm.trans htable)
      exact (Table.fit?_carry_of_seated hne (hq _ hu) hseated hafter hbefore).symm
  · obtain rfl := Option.some.inj (ht.symm.trans ht')
    obtain rfl := Option.some.inj (hu.symm.trans hu')
    exact Table.fit?_carry_of_seated hne hseated (hq _ hu) hbefore hafter

end Changes

/-! ## Runs -/

namespace Session

variable [Scalar R] {c l : ObjectId} {m : LidMap}

/-- If the container `c` is closed, `l` is where closing it puts its lid. -/
def Seated (c l : ObjectId) (s : Session R) : Prop := ∀ t ∈ s.table, t.Seated c l

instance [DecidableEq R] (s : Session R) : Decidable (s.Seated c l) :=
  inferInstanceAs (Decidable (∀ t ∈ s.table, t.Seated c l))

/-- If the container `c` is closed in `s` and in `s'`, the place where its lid `l` belongs is not
moved from `s` to `s'`, nor is the lid if it counts as the lid of another container. -/
def Rests (c l : ObjectId) (s s' : Session R) : Prop :=
  ∀ t ∈ s.table, ∀ u ∈ s'.table, t.Rests c l u

instance [DecidableEq R] (s s' : Session R) : Decidable (s.Rests c l s') :=
  inferInstanceAs (Decidable (∀ t ∈ s.table, ∀ u ∈ s'.table, t.Rests c l u))

/-- No operation of the run shows another scene. -/
abbrev SameScene (s : Session R) (ops : List (Operation R)) : Prop :=
  s.Along (fun s op ↦ (s.perform op).2.loads = false) ops

/-- No operation of the run leaves `c` closed and moves the place where its lid `l` belongs, or
moves `l` while it counts as the lid of another container. -/
abbrev RestsAlong (c l : ObjectId) (s : Session R) (ops : List (Operation R)) : Prop :=
  s.Along (fun s op ↦ s.Rests c l (s.perform op).1) ops

theorem seated_of_keeps {s : Session R} (h : s.progress.Keeps m c l) :
    s.lids = m ∧ s.Seated c l := by
  obtain ⟨t, ht, hlids, hseated⟩ := h.table
  refine ⟨(lids_of_table ht).trans hlids, ?_⟩
  intro u hu
  obtain rfl := Option.some.inj (Eq.trans (Eq.symm ht) hu)
  exact hseated

/-- After a load, what is certain is what is shown. -/
theorem keeps_of_loads {s : Session R} {op : Operation R} (hload : (s.perform op).2.loads)
    (hseated : (s.perform op).1.Seated c l) :
    (s.perform op).1.progress.Keeps (s.perform op).1.lids c l := by
  obtain ⟨b, t, -, -, hprogress⟩ := (makes_perform s op).change.exists_bundle hload
  have ht : (s.perform op).1.table = some t := congrArg Progress.table hprogress
  have hcommitted : (s.perform op).1.progress.committed = some t := by rw [hprogress]; rfl
  have hkept : t.Keeps (s.perform op).1.lids c l := ⟨(lids_of_table ht).symm, hseated t ht⟩
  exact ⟨⟨t, ht, hkept⟩, ⟨t, hcommitted, hkept⟩⟩

/-- A lid is seated throughout a run exactly if it rests along it. -/
theorem Coherent.seated_iff_rests {s : Session R} (hs : s.Coherent) (hlid : m.lidFor? c = some l)
    (hne : l ≠ c) (hkeeps : s.progress.Keeps m c l) {ops : List (Operation R)}
    (hops : s.SameScene ops) :
    (∀ ops', ops' <+: ops → (s.run ops').Seated c l) ↔ s.RestsAlong c l ops := by
  have hkeep (s : Session R) (op : Operation R) (h : s.Coherent ∧ s.progress.Keeps m c l)
      (hload : (s.perform op).2.loads = false) (hrests : s.Rests c l (s.perform op).1) :
      (s.perform op).1.progress.Keeps m c l :=
    (makes_perform s op).change.keeps h.1.sound hload hlid hne h.2 hrests
  have hrests (s : Session R) (op : Operation R) (h : s.Coherent ∧ s.progress.Keeps m c l)
      (hload : (s.perform op).2.loads = false) (hseated : (s.perform op).1.Seated c l) :
      s.Rests c l (s.perform op).1 :=
    (makes_perform s op).change.rests h.1.sound hload hne h.2 hseated
  refine prefixes_iff_along (I := fun s ↦ s.Coherent ∧ s.progress.Keeps m c l)
    (fun s h ↦ (seated_of_keeps h.2).2) (fun s op h hload ↦ ?_)
    (fun s op h hload hseated ↦ ?_) ⟨hs, hkeeps⟩ hops
  · exact ⟨hrests s op h hload, fun hr ↦ (seated_of_keeps (hkeep s op h hload hr)).2⟩
  · exact ⟨h.1.perform op, hkeep s op h hload (hrests s op h hload hseated)⟩

/-- From a scene in which the lid `l` of the container `c` is seated if `c` is closed, the lid is
seated whenever `c` is closed, through the whole of a run that shows no other scene, exactly if no
operation of the run leaves `c` closed and moves the place where the lid belongs, or moves the lid
while it counts as the lid of another container. -/
theorem seated_run_iff (config : Config R) (before : List (Operation R)) (op : Operation R)
    (hload : (((start config).run before).perform op).2.loads) {s : Session R}
    (hs : (((start config).run before).perform op).1 = s)
    (hlid : s.lids.lidFor? c = some l) (hne : l ≠ c) (hseated : s.Seated c l)
    {ops : List (Operation R)} (hops : s.SameScene ops) :
    (∀ ops', ops' <+: ops → (s.run ops').Seated c l) ↔ s.RestsAlong c l ops := by
  have hcoherent : ((start config).run before).Coherent := (coherent_start config).run before
  subst hs
  exact (hcoherent.perform op).seated_iff_rests hlid hne (keeps_of_loads hload hseated) hops

/-- The bowl is opened, moved and closed again; closing it once more is refused.  Its lid is seated
all the time. -/
theorem seated_run_iff_close :
    let s := (start Kitchen.config).run [Kitchen.loadClosed]
    let ops := [.choose .openLid, .clickObject "lid", .clickEmpty,
      .replay ⟨.move, "bowl", none, ⟨⟨1, 1, 1⟩, 0⟩⟩, .choose .closeLid, .clickObject "bowl",
      .cancel, .choose .closeLid, .clickObject "lid", .finish,
      .replay ⟨.closeLid, "lid", some "bowl", ⟨⟨1, 1, 1⟩, 0⟩⟩]
    "bowl" ∈ (s.run ops).relations.closed ∧
      ∀ ops', ops' <+: ops → (s.run ops').Seated "bowl" "lid" := by
  intro s ops
  have hrests : s.RestsAlong "bowl" "lid" ops := by decide +kernel
  refine ⟨by decide +kernel, (seated_run_iff Kitchen.config [] Kitchen.loadClosed
    (by decide +kernel) rfl ?_ ?_ ?_ ?_).2 hrests⟩
  all_goals decide +kernel

/-- A closed container may be without its lid: if it is moved alone, if its lid is moved away and
counts as the lid of another container, or if it is its own lid. -/
theorem closed_not_seated :
    (((start Kitchen.config).run [Kitchen.loadClosed]).Seated "bowl" "lid" ∧
      ¬((start Kitchen.config).run [Kitchen.loadClosed,
        .replay ⟨.move, "bowl", none, ⟨⟨1, 1, 1⟩, 0⟩⟩]).Seated "bowl" "lid") ∧
    (((start Kitchen.config).run [Kitchen.loadShared]).Seated "pot" "lid" ∧
      ¬((start Kitchen.config).run [Kitchen.loadShared, .choose .closeLid, .clickObject "pot",
        .finish, .replay ⟨.move, "lid", none, ⟨⟨1, 1, 1⟩, 0⟩⟩]).Seated "pot" "lid") ∧
    ((start Kitchen.config).run [Kitchen.loadOwn]).Seated "bowl" "bowl" ∧
      ¬((start Kitchen.config).run [Kitchen.loadOwn, .choose .closeLid,
        .clickObject "bowl"]).Seated "bowl" "bowl" := by
  refine ⟨⟨?_, ?_⟩, ⟨?_, ?_⟩, ?_, ?_⟩
  all_goals decide +kernel

end Session

end Rearrangement
