/-!
# A pool of workers

Several workers take tasks from one list. A worker looks whether to stop, takes the number of the
next task, does the task and records its result; then it starts over, until there is no task left.
Each of these is one step of the pool, and between two steps of a worker the others may make any
number of theirs.

A task that fails stops the pool, unless it is to keep going. Workers that are busy then still
finish their task.
-/

namespace CobolSubset

/-- What a worker does next. -/
inductive Phase (α ε : Type) where
  /-- Looks whether the pool has been stopped. -/
  | check
  /-- Takes the number of the next task. -/
  | take
  /-- Does a task. -/
  | work (task : α)
  /-- Stops the pool because of a failure. -/
  | halt (task : α) (error : ε)
  /-- Counts a success. -/
  | countSuccess
  /-- Notes a failure. -/
  | noteFailure (task : α) (error : ε)
  /-- Has nothing more to do. -/
  | done
deriving DecidableEq, Repr

/-- What the workers share, and what each of them does next. -/
structure Pool (α ε : Type) where
  next : Nat := 0
  stopped : Bool := false
  succeeded : Nat := 0
  failures : List (α × ε) := []
  workers : List (Phase α ε)
deriving DecidableEq, Repr

namespace Pool

variable {α ε : Type}

def start (workers : Nat) : Pool α ε where
  workers := List.replicate workers .check

def setPhase (pool : Pool α ε) (worker : Nat) (phase : Phase α ε) : Pool α ε :=
  { pool with workers := pool.workers.set worker phase }

variable {m : Type → Type} [Monad m]

/-- One step of a worker in the given phase. -/
def stepIn (keepGoing : Bool) (tasks : List α) (perform : α → m (Except ε Unit)) (pool : Pool α ε)
    (worker : Nat) : Phase α ε → m (Pool α ε)
  | .check => return pool.setPhase worker (if pool.stopped then .done else .take)
  | .take =>
    let taken := { pool with next := pool.next + 1 }
    match tasks[pool.next]? with
    | some task => return taken.setPhase worker (.work task)
    | none => return taken.setPhase worker .done
  | .work task => do
    match ← perform task with
    | .ok () => return pool.setPhase worker .countSuccess
    | .error e => return pool.setPhase worker (if keepGoing then .noteFailure task e else .halt task e)
  | .halt task e => return { pool with stopped := true }.setPhase worker (.noteFailure task e)
  | .countSuccess => return { pool with succeeded := pool.succeeded + 1 }.setPhase worker .check
  | .noteFailure task e =>
    return { pool with failures := pool.failures ++ [(task, e)] }.setPhase worker .check
  | .done => return pool

def step (keepGoing : Bool) (tasks : List α) (perform : α → m (Except ε Unit)) (pool : Pool α ε)
    (worker : Nat) : m (Pool α ε) :=
  match pool.workers[worker]? with
  | some phase => stepIn keepGoing tasks perform pool worker phase
  | none => return pool

def busy? (pool : Pool α ε) : Option Nat :=
  pool.workers.findIdx? fun phase =>
    match phase with
    | .done => false
    | _ => true

/-- Lets the first busy worker make steps until all workers are done, at most the given number of
them. -/
def runSteps (keepGoing : Bool) (tasks : List α) (perform : α → m (Except ε Unit)) :
    Nat → Pool α ε → m (Pool α ε)
  | 0, pool => return pool
  | steps + 1, pool =>
    match pool.busy? with
    | none => return pool
    | some worker => do
      let pool ← step keepGoing tasks perform pool worker
      runSteps keepGoing tasks perform steps pool

/-- The number of steps after which all workers are done: at most five for each task, and two for a
worker that finds none. -/
def stepBound (tasks workers : Nat) : Nat := 5 * tasks + 2 * workers

/-- Runs the tasks with the given number of workers. They make steps in the given order first; then
the first busy worker goes on until all of them are done. -/
def run (keepGoing : Bool) (workers : Nat) (tasks : List α) (perform : α → m (Except ε Unit))
    (order : List Nat := []) : m (Pool α ε) := do
  let pool ← order.foldlM (step keepGoing tasks perform) (start workers)
  runSteps keepGoing tasks perform (stepBound tasks.length workers) pool

end Pool

end CobolSubset
