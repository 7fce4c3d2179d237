import Mathlib.Data.List.Perm.Basic
import Mathlib.Logic.Relation
import ImageImports.Batch

/-!
# Batches on a pool of workers

A pool has a line of jobs and a number of workers.  A free worker takes the first job in the line,
workers finish in any order, and a job that needs no worker is done while it still stands in the
line.  The orders in which a pool can finish its jobs are the ones that a batch has to be indifferent
to.

## Main results

* `Pool.wellFounded_step` — every run of a pool ends.
* `Pool.Finishes.perm` — a pool with a worker finishes each job once.
-/

namespace ImageImports.Batch

open Relation (ReflTransGen)

/-- The jobs of a batch on a pool, each by its place in the batch. -/
structure Pool where
  waiting : List Nat
  running : List Nat
  /-- The jobs that are done, in the order in which they got done. -/
  finished : List Nat

namespace Pool

/-- A pool before any of its `n` jobs has begun. -/
def start (n : Nat) : Pool := ⟨List.range n, [], []⟩

/-- What can happen next on a pool. -/
inductive Step (workers : Nat) : Pool → Pool → Prop where
  /-- A free worker takes the first job in the line. -/
  | take {job : Nat} {rest running finished : List Nat} (free : running.length < workers) :
      Step workers ⟨job :: rest, running, finished⟩ ⟨rest, running ++ [job], finished⟩
  /-- A job that needs no worker is done. -/
  | pass {before after running finished : List Nat} {job : Nat} :
      Step workers ⟨before ++ job :: after, running, finished⟩
        ⟨before ++ after, running, finished ++ [job]⟩
  /-- A worker is done with its job. -/
  | finish {waiting before after finished : List Nat} {job : Nat} :
      Step workers ⟨waiting, before ++ job :: after, finished⟩
        ⟨waiting, before ++ after, finished ++ [job]⟩

/-- All jobs of a pool, wherever they are. -/
def jobs (p : Pool) : List Nat := p.waiting ++ p.running ++ p.finished

/-- The most steps that are left: a job that waits is taken and finished, one that runs is
finished. -/
def stepsLeft (p : Pool) : Nat := 2 * p.waiting.length + p.running.length

/-- The orders in which `n` jobs can be done when a run on the pool has come to its end. -/
def Finishes (workers n : Nat) (finished : List Nat) : Prop :=
  ∃ p, ReflTransGen (Step workers) (start n) p ∧ (∀ q, ¬ Step workers p q) ∧ p.finished = finished

variable {workers : Nat} {p q : Pool}

/-- No step loses a job or makes one up. -/
theorem Step.perm (h : Step workers p q) : q.jobs.Perm p.jobs := by
  refine List.perm_iff_count.2 fun job => ?_
  cases h with
  | take free => simp only [jobs, List.count_append, List.count_cons, List.count_nil]; omega
  | pass => simp only [jobs, List.count_append, List.count_cons, List.count_nil]; omega
  | finish => simp only [jobs, List.count_append, List.count_cons, List.count_nil]; omega

theorem Step.stepsLeft_lt (h : Step workers p q) : q.stepsLeft < p.stepsLeft := by
  cases h with
  | take free => simp [stepsLeft]; omega
  | pass => simp [stepsLeft]
  | finish => simp [stepsLeft]

/-- Every run of a pool ends, however its workers take turns. -/
theorem wellFounded_step (workers : Nat) : WellFounded fun q p => Step workers p q :=
  Subrelation.wf Step.stepsLeft_lt (measure stepsLeft).wf

/-- A pool with a worker gets on until nothing waits and nothing runs. -/
theorem idle_of_no_step (hworkers : 0 < workers) (h : ∀ q, ¬ Step workers p q) :
    p.waiting = [] ∧ p.running = [] := by
  obtain ⟨waiting, running, finished⟩ := p
  cases running with
  | cons job rest =>
    have hfinish : Step workers ⟨waiting, [] ++ job :: rest, finished⟩
        ⟨waiting, [] ++ rest, finished ++ [job]⟩ := .finish
    exact absurd hfinish (h _)
  | nil =>
    cases waiting with
    | nil => exact ⟨rfl, rfl⟩
    | cons job rest => exact absurd (Step.take hworkers) (h _)

theorem perm_of_run (h : ReflTransGen (Step workers) p q) : q.jobs.Perm p.jobs := by
  induction h with
  | refl => exact .refl _
  | tail _ step ih => exact step.perm.trans ih

/-- When a pool with a worker comes to its end, each of its jobs has been done once. -/
theorem Finishes.perm {n : Nat} {finished : List Nat} (hworkers : 0 < workers)
    (h : Finishes workers n finished) : finished.Perm (List.range n) := by
  obtain ⟨p, hrun, hend, rfl⟩ := h
  obtain ⟨hwaiting, hrunning⟩ := idle_of_no_step hworkers hend
  simpa [jobs, hwaiting, hrunning, start] using perm_of_run hrun

end Pool

/-- Whatever order a pool finishes the jobs in, the batch returns one result per job, in the order
of the jobs. -/
theorem collect_of_finishes {α β : Type} {run : α → β} {jobs : List α} {workers : Nat}
    {finished : List Nat} (hworkers : 0 < workers)
    (h : Pool.Finishes workers jobs.length finished) :
    collect run jobs finished = some (jobs.map run) :=
  collect_eq_map fun _ hi => (h.perm hworkers).mem_iff.2 (List.mem_range.2 hi)

end ImageImports.Batch
