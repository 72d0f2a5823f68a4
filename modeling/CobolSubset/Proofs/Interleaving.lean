import CobolSubset.Command.Pool
import Mathlib

/-!
# Workers in any order

Between two steps of a worker the others may make any number of theirs, so a run of the pool is
nothing but a list of workers: whose turn it is. This module says what is true of all such runs, for
tasks of which it is known how they end.

What a worker can do is said once, by `Turn`, and every law is first seen for a turn and then for a
whole run. Two laws are of the same kind. A task is left, in hand or done, but never two of these
(`Turn.tasks_left`). And what a task came to is recorded or owed by the worker that did it
(`Turn.results`). A turn moves something from one place to another, so the sum over the shared part
and all workers stays (`Turn.balance`).

The third law is about stopping. The pool is stopped before the failure is noted, and in between
other workers may leave. The failure is not lost, because the worker that stopped the pool has still
to note it (`Sound.stops`).
-/

namespace CobolSubset.Pool

variable {α ε : Type}

/-! ### Interleavings -/

section Interleaving

variable (keepGoing : Bool) (tasks : List α) (outcome : α → Except ε Unit)

/-- One step of a worker, where it is known how each task ends. -/
def advance (pool : Pool α ε) (worker : Nat) : Pool α ε :=
  step (m := Id) keepGoing tasks outcome pool worker

/-- The pool after the workers have made steps in the given order. -/
def follow (pool : Pool α ε) (schedule : List Nat) : Pool α ε :=
  schedule.foldl (advance keepGoing tasks outcome) pool

/-- The task that a worker does in its next step, if it does one. -/
def doing (pool : Pool α ε) (worker : Nat) : List α :=
  match pool.workers[worker]? with
  | some (.work task) => [task]
  | _ => []

/-- Which tasks are done while the workers make steps in the given order, and by whom. -/
def history (pool : Pool α ε) : List Nat → List (Nat × α)
  | [] => []
  | worker :: schedule =>
    (pool.doing worker).map (worker, ·) ++
      history (advance keepGoing tasks outcome pool worker) schedule

end Interleaving

def Ended (pool : Pool α ε) : Prop := ∀ phase ∈ pool.workers, phase = .done

/-! ### Turns -/

/-- What a worker can do in a phase: the shared part of the pool before and after, the phase before
and after, and in between the task that is done. -/
inductive Turn (keepGoing : Bool) (tasks : List α) (outcome : α → Except ε Unit)
    (pool : Pool α ε) : Phase α ε → List α → Pool α ε → Phase α ε → Prop
  | leave : pool.stopped = true → Turn keepGoing tasks outcome pool .check [] pool .done
  | enter : pool.stopped = false → Turn keepGoing tasks outcome pool .check [] pool .take
  | take {task : α} : tasks[pool.next]? = some task →
      Turn keepGoing tasks outcome pool .take [] { pool with next := pool.next + 1 } (.work task)
  | exhaust : tasks[pool.next]? = none →
      Turn keepGoing tasks outcome pool .take [] { pool with next := pool.next + 1 } .done
  | succeed {task : α} : outcome task = .ok () →
      Turn keepGoing tasks outcome pool (.work task) [task] pool .countSuccess
  | fail {task : α} {e : ε} : outcome task = .error e → keepGoing = true →
      Turn keepGoing tasks outcome pool (.work task) [task] pool (.noteFailure task e)
  | giveUp {task : α} {e : ε} : outcome task = .error e → keepGoing = false →
      Turn keepGoing tasks outcome pool (.work task) [task] pool (.halt task e)
  | halt {task : α} {e : ε} :
      Turn keepGoing tasks outcome pool (.halt task e) [] { pool with stopped := true }
        (.noteFailure task e)
  | count :
      Turn keepGoing tasks outcome pool .countSuccess []
        { pool with succeeded := pool.succeeded + 1 } .check
  | note {task : α} {e : ε} :
      Turn keepGoing tasks outcome pool (.noteFailure task e) []
        { pool with failures := pool.failures ++ [(task, e)] } .check

variable {keepGoing : Bool} {tasks : List α} {outcome : α → Except ε Unit}

/-- A step of a worker is a turn of it, unless it has nothing more to do. -/
theorem advance_cases (pool : Pool α ε) (worker : Nat) :
    (advance keepGoing tasks outcome pool worker = pool ∧ pool.doing worker = [] ∧
        ∀ phase, pool.workers[worker]? = some phase → phase = .done) ∨
      ∃ old shared new, pool.workers[worker]? = some old ∧
        Turn keepGoing tasks outcome pool old (pool.doing worker) shared new ∧
        advance keepGoing tasks outcome pool worker = shared.setPhase worker new := by
  unfold doing advance step
  cases hphase : pool.workers[worker]? with
  | none => exact .inl ⟨rfl, rfl, by simp⟩
  | some phase =>
      cases phase with
      | done => exact .inl ⟨rfl, rfl, by simp⟩
      | check =>
          cases hstopped : pool.stopped with
          | false =>
              refine .inr ⟨_, _, _, rfl, .enter hstopped, ?_⟩
              simp only [stepIn, hstopped]
              rfl
          | true =>
              refine .inr ⟨_, _, _, rfl, .leave hstopped, ?_⟩
              simp only [stepIn, hstopped]
              rfl
      | take =>
          cases htask : tasks[pool.next]? with
          | none =>
              refine .inr ⟨_, _, _, rfl, .exhaust htask, ?_⟩
              simp only [stepIn, htask]
              rfl
          | some task =>
              refine .inr ⟨_, _, _, rfl, .take htask, ?_⟩
              simp only [stepIn, htask]
              rfl
      | work task =>
          -- The only step whose phase afterwards depends on the outcome of the task.
          cases houtcome : outcome task with
          | ok =>
              refine .inr ⟨_, _, _, rfl, .succeed houtcome, ?_⟩
              simp only [stepIn, bind, houtcome]
              rfl
          | error e =>
              cases keepGoing with
              | true =>
                  refine .inr ⟨_, _, _, rfl, .fail houtcome rfl, ?_⟩
                  simp only [stepIn, bind, houtcome]
                  rfl
              | false =>
                  refine .inr ⟨_, _, _, rfl, .giveUp houtcome rfl, ?_⟩
                  simp only [stepIn, bind, houtcome]
                  rfl
      | halt task e => exact .inr ⟨_, _, _, rfl, .halt, rfl⟩
      | countSuccess => exact .inr ⟨_, _, _, rfl, .count, rfl⟩
      | noteFailure task e => exact .inr ⟨_, _, _, rfl, .note, rfl⟩

/-! ### Accounts -/

/-- Changing one element changes a sum by the difference. -/
theorem sum_map_set {M β : Type} [AddCommMonoid M] (f : β → M) {list : List β} {index : Nat}
    {old : β} (h : list[index]? = some old) (new : β) :
    ((list.set index new).map f).sum + f old = (list.map f).sum + f new := by
  induction list generalizing index with
  | nil => cases h
  | cons first rest ih =>
      cases index with
      | zero =>
          cases h
          simp only [List.set_cons_zero, List.map_cons, List.sum_cons]
          ac_rfl
      | succ index =>
          simp only [List.set_cons_succ, List.map_cons, List.sum_cons]
          rw [add_assoc, ih h, add_assoc]

/-- What the phases of all workers are worth together. -/
def total {M : Type} [AddCommMonoid M] (worth : Phase α ε → M) (pool : Pool α ε) : M :=
  (pool.workers.map worth).sum

/-- At the end the phases are worth nothing, if being done is. -/
theorem total_of_ended {M : Type} [AddCommMonoid M] {worth : Phase α ε → M}
    (hdone : worth .done = 0) {pool : Pool α ε} (h : pool.Ended) : pool.total worth = 0 := by
  apply List.sum_eq_zero
  intro x hx
  obtain ⟨phase, hphase, rfl⟩ := List.mem_map.1 hx
  rw [h phase hphase, hdone]

/-- Nor are they at the start, if the first phase is worth nothing. -/
theorem total_start {M : Type} [AddCommMonoid M] {worth : Phase α ε → M}
    (hcheck : worth .check = 0) (workers : Nat) :
    (start workers : Pool α ε).total worth = 0 := by
  apply List.sum_eq_zero
  intro x hx
  obtain ⟨phase, hphase, rfl⟩ := List.mem_map.1 hx
  rw [List.eq_of_mem_replicate hphase, hcheck]

/-- The task that a worker has taken and not done yet. -/
def inHand : Phase α ε → Multiset α
  | .work task => {task}
  | _ => 0

/-- How a task that was done is recorded: by one more success, or by one more failure. -/
def result (outcome : α → Except ε Unit) (task : α) : Nat × Multiset (α × ε) :=
  match outcome task with
  | .ok () => (1, 0)
  | .error e => (0, {(task, e)})

/-- What a worker has still to record. -/
def owed : Phase α ε → Nat × Multiset (α × ε)
  | .countSuccess => (1, 0)
  | .halt task e => (0, {(task, e)})
  | .noteFailure task e => (0, {(task, e)})
  | _ => 0

/-- What has been recorded so far. -/
def recorded (pool : Pool α ε) : Nat × Multiset (α × ε) := (pool.succeeded, pool.failures)

/-- Whether a worker has a failure to note after the pool was stopped because of it. -/
def unnoted : Phase α ε → Nat
  | .noteFailure _ _ => 1
  | _ => 0

/-- The number of steps that a worker can make before it needs another task. -/
def weight : Phase α ε → Nat
  | .check => 2
  | .take => 1
  | .work _ => 5
  | .halt _ _ => 4
  | .countSuccess => 3
  | .noteFailure _ _ => 3
  | .done => 0

/-! ### Laws of a turn -/

namespace Turn

variable {pool shared : Pool α ε} {worker : Nat} {old new : Phase α ε} {now : List α}
  (h : Turn keepGoing tasks outcome pool old now shared new)
include h

theorem workers_eq : shared.workers = pool.workers := by
  cases h <;> rfl

/-- One worker's new phase changes the total by its own worth. Written without subtraction, as the
worth may be a multiset. -/
theorem total_setPhase {M : Type} [AddCommMonoid M] (worth : Phase α ε → M)
    (hold : pool.workers[worker]? = some old) :
    (shared.setPhase worker new).total worth + worth old = pool.total worth + worth new := by
  show ((shared.workers.set worker new).map worth).sum + _ = _
  rw [h.workers_eq]
  exact sum_map_set worth hold new

/-- What the shared part and the worker gain and lose together in a turn, the whole pool gains and
loses. -/
theorem balance {M : Type} [AddCancelCommMonoid M] (account : Pool α ε → M)
    (worth : Phase α ε → M) {gain loss : M} (hold : pool.workers[worker]? = some old)
    (haccount : ∀ phase, account (shared.setPhase worker phase) = account shared)
    (hlocal : account shared + worth new + loss = account pool + worth old + gain) :
    account (shared.setPhase worker new) + (shared.setPhase worker new).total worth + loss =
      account pool + pool.total worth + gain := by
  apply add_right_cancel (b := worth old)
  calc account (shared.setPhase worker new) + (shared.setPhase worker new).total worth + loss
        + worth old
      = account shared + ((shared.setPhase worker new).total worth + worth old) + loss := by
        rw [haccount]
        ac_rfl
    _ = account shared + worth new + loss + pool.total worth := by
        rw [h.total_setPhase worth hold]
        ac_rfl
    _ = account pool + pool.total worth + gain + worth old := by
        rw [hlocal]
        ac_rfl

/-- A turn moves a task from those that are left to the worker, or from the worker to those that are
done. -/
theorem tasks_left :
    (tasks.drop shared.next + inHand new + now : Multiset α) =
      tasks.drop pool.next + inHand old := by
  cases h with
  | @take task htask =>
      obtain ⟨hlt, rfl⟩ := List.getElem?_eq_some_iff.1 htask
      rw [List.drop_eq_getElem_cons hlt, ← Multiset.cons_coe, ← Multiset.singleton_add]
      simp only [inHand, Multiset.coe_nil, add_zero]
      exact add_comm _ _
  | exhaust htask =>
      have hle : tasks.length ≤ pool.next := List.getElem?_eq_none_iff.1 htask
      rw [List.drop_eq_nil_of_le hle, List.drop_eq_nil_of_le (Nat.le_succ_of_le hle)]
      simp [inHand]
  | _ => simp [inHand]

/-- What a task came to is first owed by the worker and then recorded. -/
theorem results :
    shared.recorded + owed new = pool.recorded + owed old + (now.map (result outcome)).sum := by
  cases h with
  | succeed houtcome => simp [owed, result, houtcome]
  | fail houtcome => simp [owed, result, houtcome]
  | giveUp houtcome => simp [owed, result, houtcome]
  | count => simp [owed, recorded]
  | note => simp [owed, recorded, ← Multiset.coe_add]
  | _ => simp [owed, recorded]

theorem next_le : pool.next ≤ shared.next := by
  cases h <;> simp

/-- A pool that was stopped stays so. -/
theorem stopped_of_stopped (hstopped : pool.stopped = true) : shared.stopped = true := by
  cases h with
  | halt => rfl
  | _ => exact hstopped

/-- Only a worker that has a failure to note stops the pool, and while the pool is stopped failures
do not get less. -/
theorem of_stopped (hstopped : shared.stopped = true) :
    (pool.stopped = true ∨ ∃ task e, old = .halt task e ∧ new = .noteFailure task e) ∧
      pool.failures.length + unnoted old ≤ shared.failures.length + unnoted new := by
  cases h with
  | halt => simp [unnoted]
  | _ => simp_all [unnoted]

/-- Every turn brings a worker closer to its end, even one that takes a further task. -/
theorem weight_lt :
    5 * (tasks.length - shared.next) + weight new <
      5 * (tasks.length - pool.next) + weight old := by
  cases h with
  | take htask =>
      obtain ⟨hlt, -⟩ := List.getElem?_eq_some_iff.1 htask
      simp only [weight]
      omega
  | exhaust =>
      simp only [weight]
      omega
  | _ => simp [weight]

end Turn

/-- A worker leaves only if the pool was stopped or there are no more tasks. -/
theorem Turn.of_done {pool shared : Pool α ε} {old : Phase α ε} {now : List α}
    (h : Turn keepGoing tasks outcome pool old now shared .done) :
    shared.stopped = true ∨ tasks.length ≤ shared.next := by
  cases h with
  | leave hstopped => exact .inl hstopped
  | exhaust htask => exact .inr (Nat.le_succ_of_le (List.getElem?_eq_none_iff.1 htask))

theorem Turn.of_halt {pool shared : Pool α ε} {old : Phase α ε} {now : List α} {task : α} {e : ε}
    (h : Turn keepGoing tasks outcome pool old now shared (.halt task e)) :
    keepGoing = false := by
  cases h with
  | giveUp _ hkeep => exact hkeep

/-! ### Laws of a run -/

/-- What is true of a pool at any time, `log` being the tasks that were done until then. -/
structure Sound (keepGoing : Bool) (tasks : List α) (outcome : α → Except ε Unit) (log : List α)
    (pool : Pool α ε) : Prop where
  tasks_left : (tasks.drop pool.next + pool.total inHand + log : Multiset α) = tasks
  results : pool.recorded + pool.total owed = (log.map (result outcome)).sum
  halts : ∀ task e, .halt task e ∈ pool.workers → keepGoing = false
  stops : pool.stopped = true → keepGoing = false ∧ 0 < pool.failures.length + pool.total unnoted
  leaves : .done ∈ pool.workers → pool.stopped = true ∨ tasks.length ≤ pool.next

/-- A pool that has not begun is sound. -/
theorem sound_start (workers : Nat) : Sound keepGoing tasks outcome [] (start workers) where
  tasks_left := by
    rw [total_start rfl]
    simp [start]
  results := by
    rw [total_start rfl]
    simp [start, recorded]
  halts task e h := by cases List.eq_of_mem_replicate h
  stops h := by cases h
  leaves h := by cases List.eq_of_mem_replicate h

/-- One step keeps a pool sound: the invariant follows from what a turn can be. -/
theorem Sound.advance {log : List α} {pool : Pool α ε} (h : Sound keepGoing tasks outcome log pool)
    (worker : Nat) :
    Sound keepGoing tasks outcome (log ++ pool.doing worker)
      (advance keepGoing tasks outcome pool worker) := by
  rcases advance_cases pool worker with
    ⟨hsame, hnone, -⟩ | ⟨old, shared, new, hold, hturn, hadvance⟩
  · rwa [hsame, hnone, List.append_nil]
  rw [hadvance]
  have hworkers : ∀ {phase}, phase ∈ (shared.setPhase worker new).workers →
      phase ∈ pool.workers ∨ phase = new := by
    intro phase hphase
    rw [← hturn.workers_eq]
    exact List.mem_or_eq_of_mem_set hphase
  -- The two accounts by `balance`, then the three laws about stopping.
  refine ⟨?_, ?_, ?_, ?_, ?_⟩
  · have hbalance := hturn.balance (fun pool => (tasks.drop pool.next : Multiset α)) inHand hold
      (fun _ => rfl) (hturn.tasks_left.trans (add_zero _).symm)
    rw [← h.tasks_left, ← Multiset.coe_add, add_comm (log : Multiset α), ← add_assoc]
    exact congrArg (· + (log : Multiset α)) (hbalance.trans (add_zero _))
  · have hbalance := hturn.balance recorded owed hold (fun _ => rfl)
      ((add_zero _).trans hturn.results)
    rw [List.map_append, List.sum_append, ← h.results]
    exact (add_zero _).symm.trans hbalance
  · intro task e hmem
    rcases hworkers hmem with hmem | rfl
    · exact h.halts task e hmem
    · exact hturn.of_halt
  · intro hstopped
    have htotal := hturn.total_setPhase unnoted hold
    obtain ⟨hbefore, hle⟩ := hturn.of_stopped hstopped
    show keepGoing = false ∧ 0 < shared.failures.length + _
    rcases hbefore with hbefore | ⟨task, e, rfl, rfl⟩
    · obtain ⟨hkeep, hpositive⟩ := h.stops hbefore
      exact ⟨hkeep, by omega⟩
    · -- The pool was stopped just now, by the worker that has the failure to note.
      refine ⟨h.halts task e (List.mem_of_getElem? hold), ?_⟩
      simp only [unnoted] at htotal
      omega
  · intro hmem
    rcases hworkers hmem with hmem | rfl
    · rcases h.leaves hmem with hstopped | hle
      · exact .inl (hturn.stopped_of_stopped hstopped)
      · exact .inr (hle.trans hturn.next_le)
    · exact hturn.of_done

/-- So do all steps in any order. -/
theorem Sound.follow {log : List α} {pool : Pool α ε} (h : Sound keepGoing tasks outcome log pool)
    (schedule : List Nat) :
    Sound keepGoing tasks outcome
      (log ++ (history keepGoing tasks outcome pool schedule).map Prod.snd)
      (follow keepGoing tasks outcome pool schedule) := by
  induction schedule generalizing log pool with
  | nil =>
      rw [history, List.map_nil, List.append_nil]
      exact h
  | cons worker schedule ih =>
      have hmap : ((pool.doing worker).map (worker, ·)).map Prod.snd = pool.doing worker := by
        simp [Function.comp_def]
      rw [history, List.map_append, hmap, ← List.append_assoc]
      exact ih (h.advance worker)

theorem length_workers_advance (pool : Pool α ε) (worker : Nat) :
    (advance keepGoing tasks outcome pool worker).workers.length = pool.workers.length := by
  rcases @advance_cases _ _ keepGoing tasks outcome pool worker with
    ⟨hsame, -⟩ | ⟨old, shared, new, -, hturn, hadvance⟩
  · rw [hsame]
  · rw [hadvance, setPhase, List.length_set, hturn.workers_eq]

theorem length_workers_follow (pool : Pool α ε) (schedule : List Nat) :
    (follow keepGoing tasks outcome pool schedule).workers.length = pool.workers.length := by
  induction schedule generalizing pool with
  | nil => rfl
  | cons worker schedule ih => exact (ih _).trans (length_workers_advance pool worker)

/-! ### Coming to an end -/

/-- A bound for the number of steps that are still to come. -/
def stepsLeft (tasks : List α) (pool : Pool α ε) : Nat :=
  5 * (tasks.length - pool.next) + pool.total weight

/-- A step of a busy worker lowers the bound. -/
theorem stepsLeft_advance {pool : Pool α ε} {worker : Nat} {phase : Phase α ε}
    (hphase : pool.workers[worker]? = some phase) (hbusy : phase ≠ .done) :
    (advance keepGoing tasks outcome pool worker).stepsLeft tasks < pool.stepsLeft tasks := by
  rcases @advance_cases _ _ keepGoing tasks outcome pool worker with
    ⟨-, -, hdone⟩ | ⟨old, shared, new, hold, hturn, hadvance⟩
  · exact absurd (hdone phase hphase) hbusy
  · have htotal := hturn.total_setPhase weight hold
    have hlt := hturn.weight_lt
    rw [hadvance]
    show 5 * (tasks.length - shared.next) + _ < 5 * (tasks.length - pool.next) + _
    omega

theorem ended_of_busy?_eq_none {pool : Pool α ε} (h : pool.busy? = none) : pool.Ended := by
  intro phase hphase
  have hidle := List.findIdx?_eq_none_iff.1 h phase hphase
  cases phase with
  | done => rfl
  | _ => cases hidle

/-- The worker that is chosen has something to do. -/
theorem exists_of_busy?_eq_some {pool : Pool α ε} {worker : Nat} (h : pool.busy? = some worker) :
    ∃ phase, pool.workers[worker]? = some phase ∧ phase ≠ .done := by
  obtain ⟨hlt, hbusy, -⟩ := List.findIdx?_eq_some_iff_getElem.1 h
  refine ⟨_, List.getElem?_eq_getElem hlt, ?_⟩
  intro hdone
  rw [hdone] at hbusy
  cases hbusy

/-- Letting the first busy worker go on is one order of steps, and it comes to an end. -/
theorem exists_runSteps_eq_follow (steps : Nat) (pool : Pool α ε) :
    ∃ schedule, runSteps (m := Id) keepGoing tasks outcome steps pool =
        follow keepGoing tasks outcome pool schedule ∧
      (pool.stepsLeft tasks ≤ steps → (follow keepGoing tasks outcome pool schedule).Ended) := by
  induction steps generalizing pool with
  | zero =>
      refine ⟨[], rfl, ?_⟩
      intro hle
      apply ended_of_busy?_eq_none
      show pool.busy? = none
      by_contra hbusy
      obtain ⟨worker, hworker⟩ := Option.ne_none_iff_exists'.1 hbusy
      obtain ⟨phase, hphase, hne⟩ := exists_of_busy?_eq_some hworker
      have hlt := @stepsLeft_advance _ _ keepGoing tasks outcome _ _ _ hphase hne
      omega
  | succ steps ih =>
      cases hbusy : pool.busy? with
      | none =>
          refine ⟨[], ?_, fun _ => ended_of_busy?_eq_none hbusy⟩
          simp only [runSteps, hbusy]
          rfl
      | some worker =>
          obtain ⟨phase, hphase, hne⟩ := exists_of_busy?_eq_some hbusy
          have hlt := @stepsLeft_advance _ _ keepGoing tasks outcome _ _ _ hphase hne
          obtain ⟨schedule, hrun, hended⟩ := ih (advance keepGoing tasks outcome pool worker)
          refine ⟨worker :: schedule, ?_, fun hle => hended (by omega)⟩
          simp only [runSteps, hbusy]
          exact hrun

/-- However far the workers have come, they can all come to an end. -/
theorem exists_ended (pool : Pool α ε) :
    ∃ more, (follow keepGoing tasks outcome pool more).Ended := by
  obtain ⟨more, -, hended⟩ := @exists_runSteps_eq_follow _ _ keepGoing tasks outcome
    (pool.stepsLeft tasks) pool
  exact ⟨more, hended le_rfl⟩

/-- At the start the bound is the one that the program uses. -/
theorem stepsLeft_start (workers : Nat) :
    (start workers : Pool α ε).stepsLeft tasks = stepBound tasks.length workers := by
  simp [stepsLeft, stepBound, start, total, weight, mul_comm]

/-! ### Sums of results -/

theorem sum_result_cons (task : α) (tasks : List α) :
    ((task :: tasks).map (result outcome)).sum =
      result outcome task + (tasks.map (result outcome)).sum := by
  rw [List.map_cons, List.sum_cons]

/-- Each task that was done is counted once, as a success or as a failure. -/
theorem card_sum_result (tasks : List α) :
    (tasks.map (result outcome)).sum.1 + (tasks.map (result outcome)).sum.2.card =
      tasks.length := by
  induction tasks with
  | nil => rfl
  | cons task tasks ih =>
      have hone : (result outcome task).1 + (result outcome task).2.card = 1 := by
        unfold result
        split <;> rfl
      rw [sum_result_cons, Prod.fst_add, Prod.snd_add, Multiset.card_add, List.length_cons]
      omega

theorem mem_result {first task : α} {e : ε} :
    (task, e) ∈ (result outcome first).2 ↔ task = first ∧ outcome task = .error e := by
  unfold result
  split
  · next hok =>
      simp only [Multiset.notMem_zero, false_iff]
      rintro ⟨rfl, herror⟩
      rw [hok] at herror
      cases herror
  · next found herror =>
      rw [Multiset.mem_singleton, Prod.mk.injEq]
      refine and_congr_right ?_
      rintro rfl
      simp [herror, eq_comm]

/-- A failure is recorded just for a task that was done and has failed. -/
theorem mem_sum_result {tasks : List α} {task : α} {e : ε} :
    (task, e) ∈ (tasks.map (result outcome)).sum.2 ↔ task ∈ tasks ∧ outcome task = .error e := by
  induction tasks with
  | nil => simp
  | cons first tasks ih =>
      rw [sum_result_cons, Prod.snd_add, Multiset.mem_add, mem_result, ih, List.mem_cons,
        or_and_right]

/-- No task fails more often than it was done. -/
theorem map_fst_sum_result_le (tasks : List α) :
    (tasks.map (result outcome)).sum.2.map Prod.fst ≤ (tasks : Multiset α) := by
  induction tasks with
  | nil => exact le_refl 0
  | cons task tasks ih =>
      have hone : (result outcome task).2.map Prod.fst ≤ {task} := by
        unfold result
        split
        · exact Multiset.zero_le _
        · exact le_refl _
      rw [sum_result_cons, Prod.snd_add, Multiset.map_add, ← Multiset.cons_coe,
        ← Multiset.singleton_add]
      exact add_le_add hone ih

/-! ### What is recorded in the end -/

namespace Sound

variable {log : List α} {pool : Pool α ε}

/-- A pool that keeps going is never stopped. -/
theorem not_stopped (h : Sound true tasks outcome log pool) : pool.stopped = false := by
  cases hstopped : pool.stopped with
  | false => rfl
  | true => cases (h.stops hstopped).1

variable (h : Sound keepGoing tasks outcome log pool)
include h

/-- No task is done more often than it stands in the list. -/
theorem log_subperm : log.Subperm tasks :=
  Multiset.coe_le.1 ((Multiset.le_add_left _ _).trans h.tasks_left.le)

/-- The failures of the pool are among those of the tasks that were done. -/
theorem failures_le :
    (pool.failures : Multiset (α × ε)) ≤ (log.map (result outcome)).sum.2 := by
  rw [← h.results]
  exact Multiset.le_add_right _ _

/-- No failure is made up. -/
theorem of_mem_failures {task : α} {e : ε} (hmem : (task, e) ∈ pool.failures) :
    task ∈ log ∧ outcome task = .error e :=
  mem_sum_result.1 (Multiset.mem_of_le h.failures_le hmem)

/-- No task fails more often than it stands in the list. -/
theorem failures_subperm : (pool.failures.map Prod.fst).Subperm tasks :=
  (Multiset.coe_le.1 ((Multiset.map_le_map h.failures_le).trans (map_fst_sum_result_le log))).trans
    h.log_subperm

variable (hended : pool.Ended)
include hended

/-- A failure that stopped the pool is noted in the end. -/
theorem not_stopped_of_failures_eq_nil (hnil : pool.failures = []) : pool.stopped = false := by
  cases hstopped : pool.stopped with
  | false => rfl
  | true =>
      have hpositive := (h.stops hstopped).2
      rw [total_of_ended rfl hended, hnil] at hpositive
      exact absurd hpositive (lt_irrefl 0)

/-- At the end all that was done has been recorded. -/
theorem recorded_eq : pool.recorded = (log.map (result outcome)).sum := by
  rw [← h.results, total_of_ended rfl hended, add_zero]

variable (hworkers : pool.workers ≠ [] ∨ tasks = [])
include hworkers

/-- A pool that was not stopped has done all tasks. -/
theorem log_perm (hstopped : pool.stopped = false) : log.Perm tasks := by
  have hdrop : tasks.drop pool.next = [] := by
    rcases hworkers with hworkers | rfl
    · obtain ⟨phase, hphase⟩ := List.exists_mem_of_ne_nil _ hworkers
      have hdone : .done ∈ pool.workers := hended phase hphase ▸ hphase
      rcases h.leaves hdone with htrue | hle
      · rw [hstopped] at htrue
        cases htrue
      · exact List.drop_eq_nil_of_le hle
    · exact List.drop_nil
  have hleft := h.tasks_left
  rw [hdrop, total_of_ended rfl hended, add_zero, Multiset.coe_nil, zero_add] at hleft
  exact Multiset.coe_eq_coe.1 hleft

/-- If the pool was not stopped, this is all there was to do. -/
theorem recorded_eq_of_not_stopped (hstopped : pool.stopped = false) :
    pool.recorded = (tasks.map (result outcome)).sum := by
  rw [h.recorded_eq hended]
  exact ((h.log_perm hended hworkers hstopped).map _).sum_eq

/-- The numbers of a finished pool add up, unless it was stopped. -/
theorem succeeded_add_failures (hstopped : pool.stopped = false) :
    pool.succeeded + pool.failures.length = tasks.length := by
  have hcard := @card_sum_result _ _ outcome tasks
  rw [← h.recorded_eq_of_not_stopped hended hworkers hstopped] at hcard
  exact hcard

/-- There are no failures just if every task ends well, even if the pool may be stopped. -/
theorem failures_eq_nil_iff :
    pool.failures = [] ↔ ∀ task ∈ tasks, outcome task = .ok () := by
  constructor
  · intro hnil task htask
    have hstopped := h.not_stopped_of_failures_eq_nil hended hnil
    cases houtcome : outcome task with
    | ok => rfl
    | error e =>
        have hmem : (task, e) ∈ pool.recorded.2 := by
          rw [h.recorded_eq_of_not_stopped hended hworkers hstopped]
          exact mem_sum_result.2 ⟨htask, houtcome⟩
        rw [recorded, hnil] at hmem
        cases hmem
  · intro hall
    apply List.eq_nil_iff_forall_not_mem.2
    rintro ⟨task, e⟩ hmem
    obtain ⟨htask, herror⟩ := h.of_mem_failures hmem
    rw [hall task (h.log_subperm.subset htask)] at herror
    cases herror

end Sound

/-! ### Runs from the start -/

section FromStart

variable (workers : Nat) (schedule : List Nat)

/-- From the start on a pool is sound in every order of steps. -/
theorem sound_follow_start :
    Sound keepGoing tasks outcome
      ((history keepGoing tasks outcome (start workers) schedule).map Prod.snd)
      (follow keepGoing tasks outcome (start workers) schedule) :=
  (sound_start workers).follow schedule

theorem workers_follow_start (h : workers ≠ 0 ∨ tasks = []) :
    (follow keepGoing tasks outcome (start workers) schedule).workers ≠ [] ∨ tasks = [] := by
  refine h.imp_left ?_
  intro hne hnil
  have hlength := @length_workers_follow _ _ keepGoing tasks outcome (start workers) schedule
  rw [hnil, start, List.length_replicate] at hlength
  exact hne hlength.symm

/-- Running the tasks is one order of steps, and all workers come to an end in it. -/
theorem sound_run (hworkers : workers ≠ 0 ∨ tasks = []) :
    (∃ log, Sound keepGoing tasks outcome log
        (run (m := Id) keepGoing workers tasks outcome)) ∧
      Ended (run (m := Id) keepGoing workers tasks outcome) ∧
      ((run (m := Id) keepGoing workers tasks outcome).workers ≠ [] ∨ tasks = []) := by
  obtain ⟨schedule, hrun, hended⟩ := @exists_runSteps_eq_follow _ _ keepGoing tasks outcome
    (stepBound tasks.length workers) (start workers)
  have hfirst : run (m := Id) keepGoing workers tasks outcome =
      follow keepGoing tasks outcome (start workers) schedule := hrun
  rw [hfirst]
  exact ⟨⟨_, sound_follow_start workers schedule⟩, hended (stepsLeft_start workers).le,
    workers_follow_start workers schedule hworkers⟩

end FromStart

end CobolSubset.Pool
