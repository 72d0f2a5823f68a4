import CobolSubset.Outcome
import CobolSubset.Proofs.Interleaving

/-!
# Workers that share a state

The tasks of a pool may change a state that all workers share, as files are shared by the jobs of a
batch. How a task ends then depends on what was done before it. But a task is done only once, so
after the run it is known how each of them has ended, and the run is one of those where this was
known from the beginning: all laws of such runs hold for it.

`Performed` is the history of the state, task after task. `exists_performed_run` says that every run
of the pool has such a history, whatever the order of the workers.
-/

namespace CobolSubset.Pool

variable {α ε σ : Type} {keepGoing : Bool} {tasks : List α}
  {perform : α → StateM σ (Except ε Unit)} {outcome outcome' : α → Except ε Unit} {first : σ}

/-! ### Histories -/

/-- Doing the tasks of the list one after the other, from the first state on, leads to a state, and
each of them ends as the outcome says. -/
inductive Performed (perform : α → StateM σ (Except ε Unit)) (outcome : α → Except ε Unit)
    (first : σ) : List α → σ → Prop
  | start : Performed perform outcome first [] first
  | task {log : List α} {s s' : σ} {task : α} :
      Performed perform outcome first log s → perform task s = (outcome task, s') →
      Performed perform outcome first (log ++ [task]) s'

/-- Only the outcomes of tasks that were done matter. -/
theorem Performed.congr {log : List α} {s : σ} (h : Performed perform outcome first log s)
    (hsame : ∀ task ∈ log, outcome task = outcome' task) :
    Performed perform outcome' first log s := by
  induction h with
  | start => exact .start
  | @task log s s' task _ hperform ih =>
      apply Performed.task
      · apply ih
        intro other hother
        exact hsame other (List.mem_append_left _ hother)
      · rw [hperform, hsame task (List.mem_append_right _ List.mem_cons_self)]

/-- Only the outcomes of the tasks that were done matter. -/
theorem Sound.congr {log : List α} {pool : Pool α ε} (h : Sound keepGoing tasks outcome log pool)
    (hsame : ∀ task ∈ log, outcome task = outcome' task) :
    Sound keepGoing tasks outcome' log pool where
  tasks_left := h.tasks_left
  results := by
    have hmap : log.map (result outcome) = log.map (result outcome') := by
      apply List.map_congr_left
      intro task htask
      unfold result
      rw [hsame task htask]
    rw [← hmap]
    exact h.results
  halts := h.halts
  stops := h.stops
  leaves := h.leaves

/-! ### Steps -/

/-- A worker does at most one task in a step. -/
theorem doing_cases (pool : Pool α ε) (worker : Nat) :
    pool.doing worker = [] ∨ ∃ task, pool.doing worker = [task] := by
  unfold doing
  split
  · exact .inr ⟨_, rfl⟩
  · exact .inl rfl

/-- A step in which no task is done does not touch the state. -/
theorem step_of_doing_eq_nil {pool : Pool α ε} {worker : Nat} (h : pool.doing worker = [])
    (outcome : α → Except ε Unit) (s : σ) :
    step keepGoing tasks perform pool worker s =
      (advance keepGoing tasks outcome pool worker, s) := by
  unfold doing at h
  unfold advance step
  cases hphase : pool.workers[worker]? with
  | none => rfl
  | some phase =>
      cases phase with
      | work task => simp [hphase] at h
      | take => cases htask : tasks[pool.next]? <;> simp only [stepIn, htask] <;> rfl
      | _ => rfl

/-- A step in which a task is done changes the state as the task does, and goes on with the result
of the task. -/
theorem step_of_doing_eq_singleton {pool : Pool α ε} {worker : Nat} {task : α}
    (h : pool.doing worker = [task]) {s s' : σ} (hperform : perform task s = (outcome task, s')) :
    step keepGoing tasks perform pool worker s =
      (advance keepGoing tasks outcome pool worker, s') := by
  unfold doing at h
  unfold advance step
  split at h
  · next other hphase =>
      cases h
      rw [hphase]
      simp only [stepIn]
      rw [bind_state_eq hperform]
      cases outcome task <;> rfl
  · cases h

/-! ### Runs -/

/-- A pool and a state that workers can come to, whatever the order of their steps. -/
def Reached (keepGoing : Bool) (tasks : List α) (perform : α → StateM σ (Except ε Unit)) (first : σ)
    (pool : Pool α ε) (s : σ) : Prop :=
  ∃ outcome log, Performed perform outcome first log s ∧ Sound keepGoing tasks outcome log pool

variable {pool : Pool α ε} {s : σ}

open Classical in
/-- A step of the program on the shared state is a step of the pool for outcomes that are known
afterwards. -/
theorem Reached.step (h : Reached keepGoing tasks perform first pool s) (htasks : tasks.Nodup)
    (worker : Nat) :
    ∃ outcome s', step keepGoing tasks perform pool worker s =
        (advance keepGoing tasks outcome pool worker, s') ∧
      Reached keepGoing tasks perform first (advance keepGoing tasks outcome pool worker) s' := by
  obtain ⟨outcome, log, hperformed, hsound⟩ := h
  rcases doing_cases pool worker with hnone | ⟨task, hone⟩
  · refine ⟨outcome, s, step_of_doing_eq_nil hnone outcome s, outcome, log, hperformed, ?_⟩
    have hadvance := hsound.advance worker
    rwa [hnone, List.append_nil] at hadvance
  · -- The task was not done before, so it is free how it ends.
    have hfresh : task ∉ log := by
      have hadvance := (hsound.advance worker).log_subperm
      rw [hone] at hadvance
      have hnodup : (log ++ [task]).Nodup := by
        obtain ⟨list, hperm, hsublist⟩ := hadvance
        exact hperm.nodup_iff.1 (htasks.sublist hsublist)
      intro hmem
      exact (List.nodup_append.1 hnodup).2.2 task hmem task List.mem_cons_self rfl
    let outcome' := Function.update outcome task (perform task s).1
    have hsame : ∀ other ∈ log, outcome other = outcome' other := by
      intro other hother
      have hne : other ≠ task := fun heq => hfresh (heq ▸ hother)
      exact (Function.update_of_ne hne _ _).symm
    have hperform : perform task s = (outcome' task, (perform task s).2) := by
      show _ = (Function.update outcome task _ task, _)
      rw [Function.update_self]
      rfl
    refine ⟨outcome', _, step_of_doing_eq_singleton hone hperform, outcome', log ++ [task],
      (hperformed.congr hsame).task hperform, ?_⟩
    have hadvance := (hsound.congr hsame).advance worker
    rwa [hone] at hadvance

theorem stepsLeft_advance_le (pool : Pool α ε) (worker : Nat) :
    (advance keepGoing tasks outcome pool worker).stepsLeft tasks ≤ pool.stepsLeft tasks := by
  rcases @advance_cases _ _ keepGoing tasks outcome pool worker with
    ⟨hsame, -⟩ | ⟨old, shared, new, hold, hturn, hadvance⟩
  · rw [hsame]
  · have htotal := hturn.total_setPhase weight hold
    have hlt := hturn.weight_lt
    rw [hadvance]
    show 5 * (tasks.length - shared.next) + _ ≤ 5 * (tasks.length - pool.next) + _
    omega

/-- Any steps of any workers: what is reached then. -/
theorem Reached.foldlM (h : Reached keepGoing tasks perform first pool s) (htasks : tasks.Nodup)
    (order : List Nat) :
    ∃ pool' s', order.foldlM (Pool.step keepGoing tasks perform) pool s = (pool', s') ∧
      Reached keepGoing tasks perform first pool' s' ∧
      pool'.workers.length = pool.workers.length ∧
      pool'.stepsLeft tasks ≤ pool.stepsLeft tasks := by
  induction order generalizing pool s with
  | nil => exact ⟨pool, s, rfl, h, rfl, le_rfl⟩
  | cons worker order ih =>
      obtain ⟨outcome, s', hstep, hreached⟩ := h.step htasks worker
      obtain ⟨pool'', s'', hfold, hreached', hlength, hle⟩ := ih hreached
      refine ⟨pool'', s'', ?_, hreached', ?_, ?_⟩
      · rw [List.foldlM_cons, bind_state_eq hstep]
        exact hfold
      · exact hlength.trans (length_workers_advance pool worker)
      · exact hle.trans (stepsLeft_advance_le pool worker)

/-- Letting the first busy worker go on: all workers come to an end. -/
theorem Reached.runSteps (h : Reached keepGoing tasks perform first pool s) (htasks : tasks.Nodup)
    {steps : Nat} (hsteps : pool.stepsLeft tasks ≤ steps) :
    ∃ pool' s', Pool.runSteps keepGoing tasks perform steps pool s = (pool', s') ∧
      Reached keepGoing tasks perform first pool' s' ∧ pool'.Ended ∧
      pool'.workers.length = pool.workers.length := by
  induction steps generalizing pool s with
  | zero =>
      refine ⟨pool, s, rfl, h, ?_, rfl⟩
      apply ended_of_busy?_eq_none
      by_contra hbusy
      obtain ⟨worker, hworker⟩ := Option.ne_none_iff_exists'.1 hbusy
      obtain ⟨phase, hphase, hne⟩ := exists_of_busy?_eq_some hworker
      obtain ⟨outcome, -⟩ := h
      have hlt := @stepsLeft_advance _ _ keepGoing tasks outcome _ _ _ hphase hne
      omega
  | succ steps ih =>
      cases hbusy : pool.busy? with
      | none =>
          refine ⟨pool, s, ?_, h, ended_of_busy?_eq_none hbusy, rfl⟩
          simp only [Pool.runSteps, hbusy]
          rfl
      | some worker =>
          obtain ⟨phase, hphase, hne⟩ := exists_of_busy?_eq_some hbusy
          obtain ⟨outcome, s', hstep, hreached⟩ := h.step htasks worker
          have hlt := @stepsLeft_advance _ _ keepGoing tasks outcome _ _ _ hphase hne
          obtain ⟨pool'', s'', hrun, hreached', hended, hlength⟩ := ih hreached (by omega)
          refine ⟨pool'', s'', ?_, hreached', hended,
            hlength.trans (length_workers_advance pool worker)⟩
          simp only [Pool.runSteps, hbusy]
          rw [bind_state_eq hstep]
          exact hrun

/-- Every run of the pool does tasks one after the other, none of them twice, and all workers come to
an end in it. -/
theorem exists_performed_run (htasks : tasks.Nodup) {workers : Nat}
    (hworkers : workers ≠ 0 ∨ tasks = []) (order : List Nat) (first : σ) :
    ∃ outcome log pool s, run keepGoing workers tasks perform order first = (pool, s) ∧
      Performed perform outcome first log s ∧ Sound keepGoing tasks outcome log pool ∧
      pool.Ended ∧ (pool.workers ≠ [] ∨ tasks = []) := by
  have hstart : Reached keepGoing tasks perform first (start workers) first :=
    ⟨fun _ => .ok (), [], .start, sound_start workers⟩
  obtain ⟨pool, s, hfold, hreached, hlength, hle⟩ := hstart.foldlM htasks order
  obtain ⟨pool', s', hrun, ⟨outcome, log, hperformed, hsound⟩, hended, hlength'⟩ :=
    hreached.runSteps htasks (hle.trans (stepsLeft_start workers).le)
  refine ⟨outcome, log, pool', s', ?_, hperformed, hsound, hended, ?_⟩
  · unfold run
    rw [bind_state_eq hfold]
    exact hrun
  · refine hworkers.imp_left ?_
    intro hne hnil
    rw [hnil, hlength, start, List.length_replicate] at hlength'
    exact hne hlength'.symm

/-! ### Successes and failures -/

def successes (outcome : α → Except ε Unit) (log : List α) : List α :=
  log.filter fun task => (outcome task).isOk

/-- The tasks that failed, with their errors. -/
def errors (outcome : α → Except ε Unit) (log : List α) : List (α × ε) :=
  log.filterMap fun task =>
    match outcome task with
    | .ok () => none
    | .error e => some (task, e)

/-- Each task has ended well or failed. -/
theorem successes_append_errors_perm (outcome : α → Except ε Unit) (log : List α) :
    (successes outcome log ++ (errors outcome log).map Prod.fst).Perm log := by
  induction log with
  | nil => exact .refl _
  | cons task log ih =>
      unfold successes errors at ih ⊢
      cases houtcome : outcome task with
      | ok =>
          rw [List.filter_cons_of_pos (by simp [houtcome, Except.isOk, Except.toBool]),
            List.filterMap_cons_none (by simp [houtcome])]
          exact ih.cons task
      | error e =>
          rw [List.filter_cons_of_neg (by simp [houtcome, Except.isOk, Except.toBool]),
            List.filterMap_cons_some (by simp only [houtcome]; rfl), List.map_cons]
          exact List.perm_middle.trans (ih.cons task)

/-- The record of a log, told from its two parts. -/
theorem sum_result_eq (outcome : α → Except ε Unit) (log : List α) :
    (log.map (result outcome)).sum =
      ((successes outcome log).length, (errors outcome log : Multiset (α × ε))) := by
  induction log with
  | nil => rfl
  | cons task log ih =>
      rw [sum_result_cons, ih]
      unfold successes errors result
      cases houtcome : outcome task with
      | ok =>
          rw [List.filter_cons_of_pos (by simp [houtcome, Except.isOk, Except.toBool]),
            List.filterMap_cons_none (by simp [houtcome])]
          simp [add_comm]
      | error e =>
          rw [List.filter_cons_of_neg (by simp [houtcome, Except.isOk, Except.toBool]),
            List.filterMap_cons_some (by simp only [houtcome]; rfl)]
          simp

/-- When all workers are done, the pool has counted the successes and noted the failures. -/
theorem Sound.recorded_cases {log : List α} (h : Sound keepGoing tasks outcome log pool)
    (hended : pool.Ended) :
    pool.succeeded = (successes outcome log).length ∧
      pool.failures.Perm (errors outcome log) := by
  have hrecorded := h.recorded_eq hended
  rw [sum_result_eq] at hrecorded
  obtain ⟨hsucceeded, hfailures⟩ := Prod.mk.inj hrecorded
  exact ⟨hsucceeded, Multiset.coe_eq_coe.1 hfailures⟩

end CobolSubset.Pool
