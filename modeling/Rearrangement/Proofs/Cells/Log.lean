import Rearrangement.Proofs.Cells.Honest
import Rearrangement.Proofs.Session.Valid

/-!
# Requests, answers and the record

Requests for scenes are numbered in the order in which they are made, and their answers may come
late, more than once, or not at all.  Whatever else is done in between, an answer takes effect only
if it answers the latest request, so that scenes are shown in the order of the requests
(`pairwise_numbers_shows`).  All that is recorded is recorded by operations that say so, one action
at a time, and only a new scene takes it away (`trajectory_run`).  `Orderly` puts this together.

## Main statements

* `after_completeLoad`, `exists_table_of_shows`: which answers take effect, and what is shown then.
* `latestLoad_after`, `numbers_requests`: how requests are numbered.
* `pairwise_numbers_shows`: answers take effect in the order of their requests.
* `trajectory_run`: the trajectory in terms of what operations say to have recorded.
* `orderly_run`: all of this, after any run from the start.

What is shown, and what is recorded, is told by operations (`shows`, `recorded`), not read off the
cells.  So `Orderly` is about the answers that a caller gets, and ties them to what is found in the
cells afterwards.  The inductions are on the run from its front, with `record` taking along what has
been recorded so far.
-/

namespace Rearrangement

variable {R : Type} [Scalar R]

namespace Cells

/-- The number of the request that an operation makes or answers. -/
def number? (c : Cells R) : Operation R → Option Nat
  | .beginLoad _ | .load _ => some (c.latestLoad + 1)
  | .completeLoad ticket _ => some ticket.number
  | _ => none

/-- The operation makes a request for a scene. -/
def requests (_ : Cells R) : Operation R → Bool
  | .beginLoad _ | .load _ => true
  | _ => false

/-- The operation brings the answer to a request, and the answer takes effect. -/
def shows (c : Cells R) (op : Operation R) : Bool :=
  match c.answer op with
  | .ok o => o.loads
  | .error _ => false

/-- The actions that an operation says to have recorded. -/
def recorded (c : Cells R) (op : Operation R) : List (Action R) :=
  match c.answer op with
  | .ok o => o.recorded
  | .error _ => []

/-- The numbers of the requests that are made or answered by some of the operations of a run. -/
def numbers (which : Cells R → Operation R → Bool) (c : Cells R) : List (Operation R) → List Nat
  | [] => []
  | op :: ops =>
      (if which c op then (c.number? op).toList else []) ++ (c.after op).numbers which ops

theorem numbers_cons (which : Cells R → Operation R → Bool) (c : Cells R) (op : Operation R)
    (ops : List (Operation R)) : c.numbers which (op :: ops) =
      (if which c op then (c.number? op).toList else []) ++ (c.after op).numbers which ops := rfl

/-- What a run says to have recorded since the latest scene that it has shown, after `as`. -/
def record (c : Cells R) (as : List (Action R)) : List (Operation R) → List (Action R)
  | [] => as
  | op :: ops => (c.after op).record (if c.shows op then [] else as ++ c.recorded op) ops

/-- The record of a run is read from the front: a load that shows a scene begins a new one. -/
theorem record_cons (c : Cells R) (as : List (Action R)) (op : Operation R)
    (ops : List (Operation R)) : c.record as (op :: ops) =
      (c.after op).record (if c.shows op then [] else as ++ c.recorded op) ops := rfl

/-! ## Answers to requests -/

variable {c : Cells R} {op : Operation R}

/-- What becomes of the answer to a request. -/
theorem completeLoad_cases (c : Cells R) (ticket : LoadTicket)
    (answer : Except CollaboratorError (SceneBundle R)) :
    (ticket.number ≠ c.latestLoad ∧
        c.answer (.completeLoad ticket answer) = .ok (.load .superseded) ∧
        c.after (.completeLoad ticket answer) = c) ∨
      (∃ e, (answer >>= SceneBundle.table) = .error e ∧
        c.answer (.completeLoad ticket answer) = .error (.refused (.collaborator e)) ∧
        c.after (.completeLoad ticket answer) = c) ∨
      ∃ t, ticket.number = c.latestLoad ∧ (answer >>= SceneBundle.table) = .ok t ∧
        c.answer (.completeLoad ticket answer) = .ok (.load .loaded) ∧
        c.after (.completeLoad ticket answer) = c.showing t := by
  have hrun : (Operation.completeLoad ticket answer).handler.run c = _ := Handler.run_map _ _ c
  rw [Handler.run_completeLoad_eq] at hrun
  by_cases hnumber : ticket.number = c.latestLoad
  · rw [if_pos hnumber] at hrun
    cases htable : answer >>= SceneBundle.table with
    | error e =>
      rw [htable] at hrun
      exact .inr (.inl ⟨e, rfl, by rw [Cells.answer, hrun], by rw [Cells.after, hrun]⟩)
    | ok t =>
      rw [htable] at hrun
      exact .inr (.inr ⟨t, hnumber, rfl, by rw [Cells.answer, hrun], by rw [Cells.after, hrun]⟩)
  · rw [if_neg hnumber] at hrun
    exact .inl ⟨hnumber, by rw [Cells.answer, hrun], by rw [Cells.after, hrun]⟩

/-- To load a bundle is to make a request and to answer it. -/
theorem after_load (c : Cells R) (b : SceneBundle R) : c.after (.load b) =
    (c.spent (.load b)).after (.completeLoad ⟨c.latestLoad + 1, b.scene.taskId⟩ (.ok b)) := rfl

/-- An answer shows a scene only if it is to the latest request and its bundle forms a table, which
is then what is shown. -/
theorem exists_table_of_shows_completeLoad {ticket : LoadTicket}
    {answer : Except CollaboratorError (SceneBundle R)}
    (h : c.shows (.completeLoad ticket answer)) : ticket.number = c.latestLoad ∧
      ∃ b t, answer = .ok b ∧ b.table = .ok t ∧
        c.after (.completeLoad ticket answer) = c.showing t := by
  unfold shows at h
  obtain ⟨-, hanswer, -⟩ | ⟨e, -, hanswer, -⟩ | ⟨t, hnumber, htable, -, hafter⟩ :=
    completeLoad_cases c ticket answer
  · rw [hanswer] at h
    cases h
  · rw [hanswer] at h
    cases h
  · obtain ⟨b, hb, ht⟩ := bind_eq_ok.1 htable
    exact ⟨hnumber, b, t, hb, ht, hafter⟩

/-- An answer that takes no effect changes nothing. -/
theorem after_completeLoad {ticket : LoadTicket}
    {answer : Except CollaboratorError (SceneBundle R)}
    (h : c.shows (.completeLoad ticket answer) = false) :
    c.after (.completeLoad ticket answer) = c ∧ c.recorded (.completeLoad ticket answer) = [] := by
  unfold shows at h
  unfold recorded
  obtain ⟨-, hanswer, hafter⟩ | ⟨e, -, hanswer, hafter⟩ | ⟨t, -, -, hanswer, -⟩ :=
    completeLoad_cases c ticket answer
  · exact ⟨hafter, by rw [hanswer]; rfl⟩
  · exact ⟨hafter, by rw [hanswer]⟩
  · rw [hanswer] at h
    cases h

/-- Answers leave the number of the latest request as it is. -/
theorem latestLoad_completeLoad (c : Cells R) (ticket : LoadTicket)
    (answer : Except CollaboratorError (SceneBundle R)) :
    (c.after (.completeLoad ticket answer)).latestLoad = c.latestLoad := by
  obtain ⟨-, -, h⟩ | ⟨e, -, -, h⟩ | ⟨t, -, -, -, h⟩ := completeLoad_cases c ticket answer
  · rw [h]
  · rw [h]
  · rw [h]
    rfl

/-! ## Operations -/

/-- Only the answer to a request shows a scene. -/
theorem shows_eq_false (hop : op.isLoading = false) : c.shows op = false := by
  unfold shows
  split
  next o h =>
    rw [answer_eq_ok] at h
    cases op with
    | beginLoad | completeLoad | load => cases hop
    | _ =>
      obtain ⟨a, -, rfl⟩ := Handler.run_map_eq_ok.1 h
      rfl
  next => rfl

/-- An answer that takes effect is that to the latest request, and its table is shown. -/
theorem exists_table_of_shows (h : c.shows op) : c.number? op = some (c.after op).latestLoad ∧
    ∃ b t, op.bundle? = some b ∧ b.table = .ok t ∧ c.after op = (c.spent op).showing t := by
  cases hop : op.isLoading with
  | false => cases (shows_eq_false hop).symm.trans h
  | true =>
    obtain ⟨id, rfl⟩ | ⟨ticket, answer, rfl⟩ | ⟨b, rfl⟩ := Operation.isLoading_cases hop
    · cases h
    · obtain ⟨hnumber, b, t, rfl, ht, hafter⟩ := exists_table_of_shows_completeLoad h
      refine ⟨?_, b, t, rfl, ht, hafter⟩
      rw [latestLoad_completeLoad]
      exact congrArg some hnumber
    · obtain ⟨-, b', t, hb, ht, hafter⟩ :=
        exists_table_of_shows_completeLoad (c := c.spent (.load b)) h
      obtain rfl := Except.ok.inj hb
      refine ⟨?_, b, t, rfl, ht, hafter⟩
      rw [after_load, latestLoad_completeLoad]
      rfl

/-- No answer takes effect in a run if none does at its beginning and none does later. -/
theorem numbers_shows_cons {ops : List (Operation R)} : c.numbers shows (op :: ops) = [] ↔
    c.shows op = false ∧ (c.after op).numbers shows ops = [] := by
  rw [numbers_cons, List.append_eq_nil_iff]
  refine and_congr_left fun _ ↦ ?_
  cases hshows : c.shows op with
  | false => exact iff_of_true rfl rfl
  | true =>
    rw [if_pos rfl, (exists_table_of_shows hshows).1]
    exact iff_of_false nofun nofun

omit [Scalar R] in
theorem trajectory_spent (c : Cells R) (op : Operation R) :
    (c.spent op).trajectory = c.trajectory := by cases op <;> rfl

/-- An operation that loads nothing appends what it records, at most one action, to the
trajectory. -/
theorem logs_after (hop : op.isLoading = false) :
    (c.spent op).Logs (c.recorded op) (c.after op) := by
  obtain ⟨x, hx, hspent⟩ := op.exists_honest hop c
  unfold recorded
  cases hanswer : c.answer op with
  | ok o => exact hx.done (hspent.symm.trans (answer_eq_ok.1 hanswer))
  | error h =>
    have hrun := hspent.symm.trans (answer_eq_error.1 hanswer)
    cases h with
    | refused e =>
      rw [hx.refused hrun]
      exact logs_self _
    | broken v => exact hx.broken hrun

/-- Where no scene is shown, what is recorded is what the operation says. -/
theorem trajectory_after (h : c.shows op = false) :
    (c.after op).trajectory = c.trajectory ++ c.recorded op ∧ (c.recorded op).length ≤ 1 := by
  cases hop : op.isLoading with
  | false =>
    have hlogs : (c.spent op).Logs (c.recorded op) (c.after op) := logs_after hop
    rw [← c.trajectory_spent op]
    exact ⟨hlogs.trajectory, hlogs.single⟩
  | true =>
    obtain ⟨id, rfl⟩ | ⟨ticket, answer, rfl⟩ | ⟨b, rfl⟩ := Operation.isLoading_cases hop
    · exact ⟨(List.append_nil _).symm, Nat.zero_le 1⟩
    · obtain ⟨hafter, hrecorded⟩ := after_completeLoad h
      rw [hafter, hrecorded]
      exact ⟨(List.append_nil _).symm, Nat.zero_le 1⟩
    · obtain ⟨hafter, hrecorded⟩ := after_completeLoad (c := c.spent (.load b)) h
      change c.recorded (.load b) = [] at hrecorded
      rw [after_load, hafter, hrecorded, trajectory_spent]
      exact ⟨(List.append_nil _).symm, Nat.zero_le 1⟩

/-- Requests are counted, and nothing else is. -/
theorem latestLoad_after (c : Cells R) (op : Operation R) :
    (c.after op).latestLoad = c.latestLoad + if c.requests op then 1 else 0 := by
  cases hop : op.isLoading with
  | false =>
    rw [(logs_after hop).latestLoad]
    cases op with
    | beginLoad | completeLoad | load => cases hop
    | _ => rfl
  | true =>
    obtain ⟨id, rfl⟩ | ⟨ticket, answer, rfl⟩ | ⟨b, rfl⟩ := Operation.isLoading_cases hop
    · rfl
    · exact latestLoad_completeLoad c ticket answer
    · rw [after_load, latestLoad_completeLoad]
      rfl

omit [Scalar R] in
theorem number?_of_requests (h : c.requests op) : c.number? op = some (c.latestLoad + 1) := by
  cases op with
  | beginLoad | load => rfl
  | _ => cases h

/-! ## Runs -/

/-- Requests are numbered one after the other. -/
theorem numbers_requests (c : Cells R) (ops : List (Operation R)) :
    ∃ n, c.numbers requests ops = List.range' (c.latestLoad + 1) n ∧
      (c.run ops).latestLoad = c.latestLoad + n := by
  -- A request moves on the number from which the rest of the run counts.
  induction ops generalizing c with
  | nil => exact ⟨0, rfl, rfl⟩
  | cons op ops ih =>
    obtain ⟨n, hnumbers, hlatest⟩ := ih (c.after op)
    rw [latestLoad_after] at hnumbers hlatest
    rw [numbers_cons, hnumbers, run_cons, hlatest]
    cases hrequests : c.requests op with
    | true =>
      refine ⟨n + 1, ?_, by simp; omega⟩
      rw [if_pos rfl, number?_of_requests hrequests, List.range'_succ]
      rfl
    | false => exact ⟨n, rfl, rfl⟩

/-- An answer that takes effect in a run is not to an older request than those made before. -/
theorem le_of_mem_numbers_shows {n : Nat} {ops : List (Operation R)}
    (h : n ∈ c.numbers shows ops) : c.latestLoad ≤ n := by
  induction ops generalizing c with
  | nil => cases h
  | cons op ops ih =>
    have hlatest : c.latestLoad ≤ (c.after op).latestLoad := by
      rw [latestLoad_after]
      exact Nat.le_add_right _ _
    rw [numbers_cons, List.mem_append] at h
    rcases h with h | h
    · split at h
      next hshows =>
        rw [(exists_table_of_shows hshows).1] at h
        obtain rfl := List.mem_singleton.1 h
        exact hlatest
      next => cases h
    · exact Nat.le_trans hlatest (ih h)

/-- Scenes are shown in the order in which they are requested. -/
theorem pairwise_numbers_shows (c : Cells R) (ops : List (Operation R)) :
    (c.numbers shows ops).Pairwise (· ≤ ·) := by
  induction ops generalizing c with
  | nil => exact .nil
  | cons op ops ih =>
    rw [numbers_cons]
    split
    next hshows =>
      rw [(exists_table_of_shows hshows).1]
      exact .cons (fun n hn ↦ le_of_mem_numbers_shows hn) (ih _)
    next => exact ih _

/-- The trajectory is what has been recorded since the latest scene was shown. -/
theorem trajectory_run (c : Cells R) (ops : List (Operation R)) :
    (c.run ops).trajectory = c.record c.trajectory ops := by
  induction ops generalizing c with
  | nil => rfl
  | cons op ops ih =>
    rw [run_cons, record_cons, ih]
    congr 1
    cases hshows : c.shows op with
    | true =>
      obtain ⟨-, b, t, -, -, hafter⟩ := exists_table_of_shows hshows
      rw [hafter]
      rfl
    | false => exact (trajectory_after hshows).1

/-- What can be relied on after a run from the start, whatever has been done in it. -/
structure Orderly (config : Config R) (ops : List (Operation R)) (c : Cells R) : Prop where
  /-- Requests have been numbered in their order, up to the latest one. -/
  numbered : (start config).numbers requests ops = List.range' 1 c.latestLoad
  /-- The next request gets the next number. -/
  next : ∀ id, c.answer (.beginLoad id) = .ok (.ticket ⟨c.latestLoad + 1, id⟩)
  /-- An answer to another request than the latest one changes nothing, and neither does one that
  brings no scene. -/
  ignored : ∀ ticket answer, (ticket.number ≠ c.latestLoad ∨ (∃ e, answer = .error e) ∨
      ∃ b, answer = .ok b ∧ ¬ b.WellFormed) → c.after (.completeLoad ticket answer) = c
  /-- All other answers take effect. -/
  effective : ∀ ticket b, ticket.number = c.latestLoad → b.WellFormed →
    c.shows (.completeLoad ticket (.ok b))
  /-- What takes effect is the answer to the latest request, and what is shown then is the scene of
  its bundle, with nothing done to it yet. -/
  shown : ∀ op, c.shows op → c.number? op = some (c.after op).latestLoad ∧
    ∃ b, op.bundle? = some b ∧ b.WellFormed ∧
      c.after op = (c.spent op).showing ⟨⟨b.scene.taskId, b.image, b.scene.objects⟩, b.lids,
        b.relations.normalize b.lids⟩
  /-- Answers have taken effect in the order of their requests. -/
  ordered : ((start config).numbers shows ops).Pairwise (· ≤ ·)
  /-- All other operations leave the trajectory as it is or add the one action that they answer
  with. -/
  appended : ∀ op, c.shows op = false →
    (c.after op).trajectory = c.trajectory ++ c.recorded op ∧ (c.recorded op).length ≤ 1
  /-- So the trajectory is what has been recorded since the latest scene was shown. -/
  recorded : c.trajectory = (start config).record [] ops

/-- What the cells know of loading after any operations from a start: requests are numbered in turn,
an answer that is late, that failed or whose bundle is malformed changes nothing, one that takes
effect installs its bundle, and the trajectory is what has been recorded since. -/
theorem orderly_run (config : Config R) (ops : List (Operation R)) :
    Orderly config ops ((start config).run ops) where
  numbered := by
    obtain ⟨n, hnumbers, hlatest⟩ := (start config).numbers_requests ops
    have hstart : (start config).latestLoad = 0 := rfl
    rw [hnumbers, hlatest, hstart, Nat.zero_add, Nat.zero_add]
  next _ := rfl
  ignored ticket answer h := by
    refine (after_completeLoad ?_).1
    refine Bool.eq_false_iff.2 fun hshows ↦ ?_
    obtain ⟨hnumber, b, t, rfl, ht, -⟩ := exists_table_of_shows_completeLoad hshows
    rcases h with h | ⟨e, h⟩ | ⟨b', h, hmalformed⟩
    · exact h hnumber
    · cases h
    · obtain rfl := Except.ok.inj h
      exact hmalformed (SceneBundle.table_eq_ok.1 ht).1
  effective ticket b hnumber hb := by
    have htable := SceneBundle.table_eq_ok.2 ⟨hb, rfl⟩
    obtain ⟨hne, -⟩ | ⟨e, he, -⟩ | ⟨t, -, -, hanswer, -⟩ :=
      completeLoad_cases ((start config).run ops) ticket (.ok b)
    · exact absurd hnumber hne
    · cases htable.symm.trans he
    · rw [shows, hanswer]
      rfl
  shown op h := by
    obtain ⟨hnumber, b, t, hbundle, ht, hafter⟩ := exists_table_of_shows h
    obtain ⟨hb, rfl⟩ := SceneBundle.table_eq_ok.1 ht
    exact ⟨hnumber, b, hbundle, hb, hafter⟩
  ordered := pairwise_numbers_shows _ ops
  appended _ := trajectory_after
  recorded := trajectory_run _ ops

/-- The answer to the first of two requests comes last. -/
example :
    let kitchen : SceneBundle Float :=
      ⟨⟨"kitchen", [Kitchen.bowl]⟩, "kitchen.png", .ofList [], .empty⟩
    let pantry : SceneBundle Float :=
      ⟨⟨"pantry", [Kitchen.cup]⟩, "pantry.png", .ofList [], .empty⟩
    let c := (start Kitchen.config).run [.beginLoad "kitchen", .beginLoad "pantry",
      .completeLoad ⟨2, "pantry"⟩ (.ok pantry), .completeLoad ⟨1, "kitchen"⟩ (.ok kitchen)]
    c.scene.map (·.id) = some "pantry" := rfl

end Cells

end Rearrangement
