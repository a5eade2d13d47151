import Rearrangement.Proofs.Cells.Log

/-!
# Answers that come again

The answer to a request may be delivered more than once.  Nothing is kept of a ticket but the number
of the latest one, so a ticket is good until the next request, also if it has been answered: each
answer for it that brings a scene shows that scene from its beginning, and what has been recorded in
the meantime is gone (`answered_twice`).  Between two requests no other answer takes effect, and
from one that does to the next the trajectory only grows.  `Answered` puts this together.

## Main statements

* `latestLoad_run_eq`: the number of the latest request tells whether there has been another one.
* `shows_completeLoad_iff`: when an answer takes effect.
* `answered_run`: what can be relied on after an answer has taken effect.
* `answered_twice`: an answer that comes again and takes a recorded action away.
-/

namespace Rearrangement

variable {R : Type} [Scalar R]

namespace Cells

variable {c : Cells R}

/-- The number of the latest request grows by one for each request. -/
theorem latestLoad_run (c : Cells R) (ops : List (Operation R)) :
    (c.run ops).latestLoad = c.latestLoad + ops.countP c.requests := by
  induction ops generalizing c with
  | nil => rfl
  | cons op ops ih =>
    have hlater : ((c.after op).run ops).latestLoad =
        (c.after op).latestLoad + ops.countP c.requests := ih (c.after op)
    rw [run_cons, hlater, latestLoad_after, List.countP_cons]
    omega

/-- So it is the same exactly if nothing is requested in between. -/
theorem latestLoad_run_eq {ops : List (Operation R)} :
    (c.run ops).latestLoad = c.latestLoad ↔ ∀ op ∈ ops, c.requests op = false := by
  rw [latestLoad_run, Nat.add_eq_left, List.countP_eq_zero]
  simp only [Bool.not_eq_true]

/-- An answer takes effect if it is for the latest request and its bundle forms a scene. -/
theorem shows_completeLoad_iff {ticket : LoadTicket}
    {answer : Except CollaboratorError (SceneBundle R)} :
    c.shows (.completeLoad ticket answer) ↔
      ticket.number = c.latestLoad ∧ ∃ b, answer = .ok b ∧ b.WellFormed := by
  constructor
  · intro h
    obtain ⟨hnumber, b, t, hb, ht, -⟩ := exists_table_of_shows_completeLoad h
    exact ⟨hnumber, b, hb, (SceneBundle.table_eq_ok.1 ht).1⟩
  · rintro ⟨hnumber, b, rfl, hb⟩
    have htable := SceneBundle.table_eq_ok.2 ⟨hb, rfl⟩
    obtain ⟨hne, -⟩ | ⟨e, he, -⟩ | ⟨t, -, -, hanswer, -⟩ := completeLoad_cases c ticket (.ok b)
    · exact absurd hnumber hne
    · cases htable.symm.trans he
    · rw [shows, hanswer]
      rfl

/-- An answer that takes effect in a run is to a request that has been made by its end. -/
theorem mem_numbers_shows_le {n : Nat} {ops : List (Operation R)} (h : n ∈ c.numbers shows ops) :
    n ≤ (c.run ops).latestLoad := by
  induction ops generalizing c with
  | nil => cases h
  | cons op ops ih =>
    rw [numbers_cons, List.mem_append] at h
    rcases h with h | h
    · split at h
      next hshows =>
        rw [(exists_table_of_shows hshows).1] at h
        obtain rfl := List.mem_singleton.1 h
        rw [run_cons, latestLoad_run]
        exact Nat.le_add_right _ _
      next => cases h
    · exact ih h

/-- As long as no answer takes effect, the trajectory only grows. -/
theorem trajectory_prefix {ops : List (Operation R)} (h : c.numbers shows ops = []) :
    c.trajectory <+: (c.run ops).trajectory := by
  induction ops generalizing c with
  | nil => exact List.prefix_refl _
  | cons op ops ih =>
    obtain ⟨hshows, hlater⟩ := numbers_shows_cons.1 h
    refine List.IsPrefix.trans ?_ (ih hlater)
    rw [(trajectory_after hshows).1]
    exact List.prefix_append ..

/-- What can be relied on once the answer to a request has taken effect, and `between` has been done
since. -/
structure Answered (ticket : LoadTicket) (between : List (Operation R)) (c : Cells R) : Prop where
  /-- Another answer takes effect if no request has been made since and its bundle forms a scene. -/
  again : ∀ answer, c.shows (.completeLoad ticket answer) ↔
    (∀ op ∈ between, c.requests op = false) ∧ ∃ b, answer = .ok b ∧ b.WellFormed
  /-- Otherwise it changes nothing. -/
  ignored : ∀ answer, c.shows (.completeLoad ticket answer) = false →
    c.after (.completeLoad ticket answer) = c
  /-- The scene of its bundle is shown then, with nothing done to it yet. -/
  shown : ∀ b, c.shows (.completeLoad ticket (.ok b)) →
    c.after (.completeLoad ticket (.ok b)) = c.showing ⟨⟨b.scene.taskId, b.image, b.scene.objects⟩,
      b.lids, b.relations.normalize b.lids⟩ ∧
      (c.after (.completeLoad ticket (.ok b))).trajectory = []
  /-- Up to the next request, no answer to another one takes effect. -/
  latest : ∀ later, (∀ op ∈ later, c.requests op = false) →
    ∀ n ∈ c.numbers shows later, n = c.latestLoad
  /-- Up to the next answer that takes effect, the trajectory only grows. -/
  growing : ∀ later, c.numbers shows later = [] → c.trajectory <+: (c.run later).trajectory

/-- After an answer has taken effect, whatever has been done since, another one under the same
ticket that brings a scene takes effect exactly as long as no newer request has been made. -/
theorem answered_run (config : Config R) (before : List (Operation R)) {ticket : LoadTicket}
    {answer : Except CollaboratorError (SceneBundle R)}
    (h : ((start config).run before).shows (.completeLoad ticket answer))
    (between : List (Operation R)) : Answered ticket between
      ((((start config).run before).after (.completeLoad ticket answer)).run between) where
  again answer' := by
    obtain ⟨hnumber, -⟩ := shows_completeLoad_iff.1 h
    rw [shows_completeLoad_iff, hnumber,
      ← latestLoad_completeLoad ((start config).run before) ticket answer, eq_comm,
      latestLoad_run_eq]
    rfl
  ignored _ hshows := (after_completeLoad hshows).1
  shown b hshows := by
    obtain ⟨-, b', t, hb, ht, hafter⟩ := exists_table_of_shows_completeLoad hshows
    obtain rfl := Except.ok.inj hb
    obtain ⟨-, rfl⟩ := SceneBundle.table_eq_ok.1 ht
    rw [hafter]
    exact ⟨rfl, rfl⟩
  latest later hlater n hn := by
    have hle := mem_numbers_shows_le hn
    rw [latestLoad_run_eq.2 hlater] at hle
    exact Nat.le_antisymm hle (le_of_mem_numbers_shows hn)
  growing _ := trajectory_prefix

/-- The answer for the kitchen comes again when the bowl has been moved, and takes effect; it does
not once the pantry has been requested. -/
theorem answered_run_again :
    let kitchen : SceneBundle Float :=
      ⟨⟨"kitchen", [Kitchen.bowl]⟩, "kitchen.png", .ofList [], .empty⟩
    let answer := Operation.completeLoad ⟨1, "kitchen"⟩ (.ok kitchen)
    let c := (start Kitchen.config).run [.beginLoad "kitchen"]
    let move := [.replay ⟨.move, "bowl", none, ⟨⟨1, 1, 1⟩, 0⟩⟩, .choose .move, .clickObject "bowl"]
    c.shows answer ∧ ((c.after answer).run move).shows answer ∧
      ((c.after answer).run (move ++ [.beginLoad "pantry"])).shows answer = false := by
  intro kitchen answer c move
  have hanswer : c.shows answer := by decide +kernel
  have hanswered := answered_run Kitchen.config [.beginLoad "kitchen"] hanswer
  obtain ⟨-, hkitchen⟩ := shows_completeLoad_iff.1 hanswer
  refine ⟨hanswer, ((hanswered move).again _).2 ⟨by decide +kernel, hkitchen⟩, ?_⟩
  refine Bool.eq_false_iff.2 fun h ↦ ?_
  obtain ⟨hrequests, -⟩ := ((hanswered _).again _).1 h
  exact absurd (hrequests (.beginLoad "pantry") (by simp)) nofun

/-- The bowl is moved and the move is recorded; then the answer comes again, and both are undone. -/
theorem answered_twice :
    let kitchen : SceneBundle Float :=
      ⟨⟨"kitchen", [Kitchen.bowl]⟩, "kitchen.png", .ofList [], .empty⟩
    let answer := Operation.completeLoad ⟨1, "kitchen"⟩ (.ok kitchen)
    let c := (start Kitchen.config).run [.beginLoad "kitchen"]
    let c' := (c.after answer).run [.replay ⟨.move, "bowl", none, ⟨⟨1, 1, 1⟩, 0⟩⟩]
    c.shows answer ∧ c'.shows answer ∧ c'.trajectory.length = 1 ∧
      (c'.after answer).trajectory = [] ∧ (c'.after answer).scene ≠ c'.scene := by
  intro kitchen answer c c'
  refine ⟨?_, ?_, ?_, ?_, ?_⟩
  all_goals decide +kernel

end Cells

end Rearrangement
