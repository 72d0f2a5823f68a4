import CobolSubset.Command.Batch
import CobolSubset.Proofs.Interleaving
import CobolSubset.Proofs.Paths

/-!
# Batches in any order

What a batch reports does not depend on how its workers take turns. The pool has recorded the same
results in the end (`recorded_unique`), though perhaps in another order; and since different files
have different paths (`nodup_plan`), sorting brings the failures into the only order that there is
(`sorted_eq_of_perm`).

A batch that does not keep going may leave jobs undone, so what it records does depend on the order.
But it ends well only if all jobs do, and its error is always that of a job that was done and
failed. Both are put together in `any_interleaving`.
-/

namespace CobolSubset.Batch

/-! ### Planned jobs -/

theorem components_filePath {names : List Text} (h : ∀ name ∈ names, Path.IsFileName name)
    (directory : Path) :
    (filePath directory names).components = directory.components ++ names.map .name := by
  induction names generalizing directory with
  | nil => simp [filePath]
  | cons name names ih =>
      rw [List.forall_mem_cons] at h
      show (filePath (Path.join directory name) names).components = _
      rw [ih h.2, h.1.components_join, List.append_assoc]
      rfl

/-- The jobs are those for the sources among the files. -/
theorem mem_plan_iff {choices : BatchChoices} {files : List (List Text)} {job : Job} :
    job ∈ plan choices files ↔
      ∃ names ∈ files, isSource (filePath choices.input names) = true ∧
        job = planFile choices names := by
  unfold plan
  rw [List.mem_mergeSort, List.mem_map]
  constructor
  · rintro ⟨names, hnames, rfl⟩
    obtain ⟨hmem, hsource⟩ := List.mem_filter.1 hnames
    exact ⟨names, hmem, hsource, rfl⟩
  · rintro ⟨names, hmem, hsource, rfl⟩
    exact ⟨names, List.mem_filter.2 ⟨hmem, hsource⟩, rfl⟩

/-- Different files are planned under different paths. -/
theorem nodup_plan (choices : BatchChoices) {files : List (List Text)} (hfiles : files.Nodup)
    (hnames : ∀ names ∈ files, ∀ name ∈ names, Path.IsFileName name) :
    ((plan choices files).map fun job => job.input.components).Nodup := by
  unfold plan
  rw [((List.mergeSort_perm _ _).map _).nodup_iff, List.map_map]
  apply List.Nodup.map_on
  · intro a ha b hb heq
    have hcomponents : (filePath choices.input a).components =
        (filePath choices.input b).components := heq
    rw [components_filePath (hnames a (List.mem_of_mem_filter ha)),
      components_filePath (hnames b (List.mem_of_mem_filter hb))] at hcomponents
    have hinjective : Function.Injective Path.Component.name :=
      fun _ _ hname => Path.Component.name.inj hname
    exact hinjective.list_map (List.append_cancel_left hcomponents)
  · exact hfiles.filter _

/-! ### Failures in order -/

/-- The failures in the order of their paths. -/
def sorted (failures : List (Job × Failure)) : List (Job × Failure) :=
  failures.mergeSort fun a b => Path.le a.1.input b.1.input

theorem mem_sorted {failures : List (Job × Failure)} {failure : Job × Failure} :
    failure ∈ sorted failures ↔ failure ∈ failures :=
  (List.mergeSort_perm _ _).mem_iff

theorem sorted_eq_nil_iff {failures : List (Job × Failure)} :
    sorted failures = [] ↔ failures = [] := by
  rw [← List.length_eq_zero_iff, ← List.length_eq_zero_iff, sorted, List.length_mergeSort]

/-- Failures of different paths have only one order. -/
theorem sorted_eq_of_perm {failures failures' : List (Job × Failure)}
    (hperm : failures.Perm failures')
    (hkeys : (failures.map fun failure => failure.1.input.components).Nodup) :
    sorted failures = sorted failures' := by
  have hpairwise : ∀ list : List (Job × Failure),
      (sorted list).Pairwise fun a b => Path.le a.1.input b.1.input = true := by
    intro list
    apply List.pairwise_mergeSort
    · intro a b c
      exact Path.le_trans
    · intro a b
      exact Path.le_total _ _
  apply List.Perm.eq_of_pairwise _ (hpairwise failures) (hpairwise failures')
  · exact (List.mergeSort_perm _ _).trans (hperm.trans (List.mergeSort_perm _ _).symm)
  · intro a b ha hb hab hba
    have hb' : b ∈ failures := hperm.mem_iff.2 (mem_sorted.1 hb)
    exact List.inj_on_of_nodup_map hkeys (mem_sorted.1 ha) hb' (Path.components_eq_of_le hab hba)

/-! ### Conclusions -/

section Conclusions

variable (invocation : Invocation) (total : Nat) {pool pool' : Pool Job Failure}

/-- The order in which failures were noted does not show in the end. -/
theorem conclude_congr (keepGoing : Bool) (hsucceeded : pool.succeeded = pool'.succeeded)
    (hfailures : sorted pool.failures = sorted pool'.failures) :
    conclude invocation keepGoing total pool = conclude invocation keepGoing total pool' := by
  unfold sorted at hfailures
  simp only [conclude, hsucceeded, hfailures]

theorem conclude_of_failures_eq_nil (keepGoing : Bool) (h : pool.failures = []) :
    conclude invocation keepGoing total pool =
      { output := report invocation pool.succeeded [] } := by
  have hsorted : sorted pool.failures = [] := sorted_eq_nil_iff.2 h
  unfold sorted at hsorted
  unfold conclude
  rw [hsorted]
  cases keepGoing <;> rfl

/-- With failures there is an error, and without keeping going it is the error of one of them. -/
theorem conclude_of_failures_ne_nil (keepGoing : Bool) (h : pool.failures ≠ []) :
    ∃ e, (conclude invocation keepGoing total pool).result = .error e ∧
      (keepGoing = false → ∃ job, (job, e) ∈ pool.failures) := by
  obtain ⟨⟨job, failure⟩, rest, hsorted⟩ :=
    List.exists_cons_of_ne_nil (mt sorted_eq_nil_iff.1 h)
  have hmem : (job, failure) ∈ pool.failures := mem_sorted.1 (hsorted ▸ List.mem_cons_self)
  unfold sorted at hsorted
  unfold conclude
  rw [hsorted]
  cases keepGoing with
  | false => exact ⟨failure, rfl, fun _ => ⟨job, hmem⟩⟩
  | true => exact ⟨_, rfl, fun hfalse => by cases hfalse⟩

/-- A batch ends well just if no job has failed. -/
theorem conclude_result_eq_ok_iff (keepGoing : Bool) :
    (conclude invocation keepGoing total pool).result = .ok () ↔ pool.failures = [] := by
  constructor
  · intro hok
    by_contra hne
    obtain ⟨e, herror, -⟩ := conclude_of_failures_ne_nil invocation total keepGoing hne
    rw [hok] at herror
    cases herror
  · intro hnil
    rw [conclude_of_failures_eq_nil invocation total keepGoing hnil]

end Conclusions

/-- The number of workers is right for the number of jobs. -/
theorem workers_ne_zero_or (choices : BatchChoices) (jobs : List Job) :
    min (max choices.jobs 1) jobs.length ≠ 0 ∨ jobs = [] := by
  cases jobs with
  | nil => exact .inr rfl
  | cons job jobs =>
      refine .inl ?_
      rw [List.length_cons]
      omega

theorem nodup_map_of_subperm {β γ : Type} {f : β → γ} {part whole : List β}
    (h : part.Subperm whole) (hwhole : (whole.map f).Nodup) : (part.map f).Nodup := by
  obtain ⟨list, hperm, hsublist⟩ := h
  exact (hperm.map f).nodup_iff.1 (hwhole.sublist (hsublist.map f))

section Pools

variable {jobs : List Job} {outcome : Job → Except Failure Unit} {pool pool' : Pool Job Failure}
  {log log' : List Job}

/-- What was recorded does not depend on the order of steps, nor on the number of workers. -/
theorem recorded_unique (hjobs : (jobs.map fun job => job.input.components).Nodup)
    (h : Pool.Sound true jobs outcome log pool) (h' : Pool.Sound true jobs outcome log' pool')
    (hended : pool.Ended) (hended' : pool'.Ended) (hworkers : pool.workers ≠ [] ∨ jobs = [])
    (hworkers' : pool'.workers ≠ [] ∨ jobs = []) :
    pool.succeeded = pool'.succeeded ∧ sorted pool.failures = sorted pool'.failures := by
  have hsame : pool.recorded = pool'.recorded :=
    (h.recorded_eq_of_not_stopped hended hworkers h.not_stopped).trans
      (h'.recorded_eq_of_not_stopped hended' hworkers' h'.not_stopped).symm
  refine ⟨congrArg Prod.fst hsame, sorted_eq_of_perm ?_ ?_⟩
  · exact Multiset.coe_eq_coe.1 (congrArg Prod.snd hsame)
  · have hkeys := nodup_map_of_subperm h.failures_subperm hjobs
    rwa [List.map_map] at hkeys

/-- Without keeping going the error is that of a job that was done and failed. -/
theorem exists_of_result_eq_error (invocation : Invocation) (total : Nat)
    (h : Pool.Sound false jobs outcome log pool) {e : Failure}
    (herror : (conclude invocation false total pool).result = .error e) :
    ∃ job ∈ log, outcome job = .error e := by
  have hne : pool.failures ≠ [] := by
    intro hnil
    rw [conclude_of_failures_eq_nil invocation total false hnil] at herror
    cases herror
  obtain ⟨e', herror', hmem⟩ := conclude_of_failures_ne_nil invocation total false hne
  obtain ⟨job, hjob⟩ := hmem rfl
  cases herror.symm.trans herror'
  exact ⟨job, h.of_mem_failures hjob⟩

end Pools

/-- **Any interleaving**: let the workers of a batch make their steps in any order, for files that
are different and have names that files can have. No job is done twice, and wherever the workers are
they can come to an end. When they have, the batch ends well exactly if all jobs do. If it keeps
going, every job was done, and successes, failures and report are those of a single worker. If it
does not, all jobs are counted where it ends well, and otherwise its error is that of a job that was
done. -/
theorem any_interleaving (invocation : Invocation) (choices : BatchChoices)
    {files : List (List Text)} (hfiles : files.Nodup)
    (hnames : ∀ names ∈ files, ∀ name ∈ names, Path.IsFileName name)
    (outcome : Job → Except Failure Unit) (schedule : List Nat) :
    let jobs := plan choices files
    let first := Pool.start (min (max choices.jobs 1) jobs.length)
    let pool := first.follow choices.keepGoing jobs outcome schedule
    let performed := (first.history choices.keepGoing jobs outcome schedule).map Prod.snd
    let run := conclude invocation choices.keepGoing jobs.length pool
    let single := Pool.run (m := Id) true 1 jobs outcome
    (performed.Nodup ∧ performed ⊆ jobs) ∧
      (∃ more, (pool.follow choices.keepGoing jobs outcome more).Ended) ∧
      (pool.Ended →
        (run.result = .ok () ↔ ∀ job ∈ jobs, outcome job = .ok ()) ∧
        (choices.keepGoing = true →
          performed.Perm jobs ∧ pool.succeeded + pool.failures.length = jobs.length ∧
          pool.succeeded = single.succeeded ∧ sorted pool.failures = sorted single.failures ∧
          run = conclude invocation true jobs.length single) ∧
        (choices.keepGoing = false →
          (run.result = .ok () → pool.succeeded = jobs.length) ∧
          ∀ e, run.result = .error e → ∃ job ∈ performed, outcome job = .error e)) := by
  intro jobs first pool performed run single
  have hjobs : (jobs.map fun job => job.input.components).Nodup :=
    nodup_plan choices hfiles hnames
  have hsound : Pool.Sound choices.keepGoing jobs outcome performed pool :=
    Pool.sound_follow_start _ schedule
  have hworkers : pool.workers ≠ [] ∨ jobs = [] :=
    Pool.workers_follow_start _ schedule (workers_ne_zero_or choices jobs)
  refine ⟨⟨?_, hsound.log_subperm.subset⟩, Pool.exists_ended pool, ?_⟩
  · exact (nodup_map_of_subperm hsound.log_subperm hjobs).of_map
  intro hended
  refine ⟨?_, ?_, ?_⟩
  · exact (conclude_result_eq_ok_iff _ _ _).trans (hsound.failures_eq_nil_iff hended hworkers)
  · intro hkeep
    have hsound' : Pool.Sound true jobs outcome performed pool := hkeep ▸ hsound
    obtain ⟨⟨log, hsingle⟩, hends, hone⟩ :=
      @Pool.sound_run _ _ true jobs outcome 1 (.inl Nat.one_ne_zero)
    have hunique := recorded_unique hjobs hsound' hsingle hended hends hworkers hone
    refine ⟨hsound.log_perm hended hworkers hsound'.not_stopped,
      hsound.succeeded_add_failures hended hworkers hsound'.not_stopped, hunique.1, hunique.2, ?_⟩
    show conclude invocation choices.keepGoing jobs.length pool = _
    rw [hkeep]
    exact conclude_congr invocation jobs.length true hunique.1 hunique.2
  · intro hstop
    refine ⟨?_, ?_⟩
    · intro hok
      have hnil : pool.failures = [] := (conclude_result_eq_ok_iff _ _ _).1 hok
      have hcount := hsound.succeeded_add_failures hended hworkers
        (hsound.not_stopped_of_failures_eq_nil hended hnil)
      rwa [hnil] at hcount
    · intro e herror
      exact exists_of_result_eq_error invocation jobs.length (hstop ▸ hsound) (hstop ▸ herror)

/-- Two workers and two files, of which one fails. -/
theorem any_interleaving_two_workers :
    let choices : BatchChoices := { input := "src".toList, jobs := 2, keepGoing := true }
    let jobs := plan choices [["B.cob".toList], ["A".toList, "C.cbl".toList]]
    let outcome : Job → Except Failure Unit := fun job =>
      if job.input = "src/B.cob".toList then .error ⟨"Failed".toList, []⟩ else .ok ()
    ∃ schedule,
      let pool := (Pool.start 2).follow true jobs outcome schedule
      pool.Ended ∧ pool.succeeded + pool.failures.length = 2 ∧
        (conclude { command := .batch choices } true 2 pool).result ≠ .ok () := by
  intro choices jobs outcome
  have hfiles : [["B.cob".toList], ["A".toList, "C.cbl".toList]].Nodup := by decide
  have hnames : ∀ names ∈ [["B.cob".toList], ["A".toList, "C.cbl".toList]],
      ∀ name ∈ names, Path.IsFileName name := by decide
  have hlength : jobs.length = 2 := by
    show (List.mergeSort _ _).length = 2
    rw [List.length_mergeSort]
    decide
  have hfailing : planFile choices ["B.cob".toList] ∈ jobs :=
    List.mem_mergeSort.2 (List.mem_map_of_mem (by decide))
  have hworkers : min (max choices.jobs 1) jobs.length = 2 := by
    rw [hlength]
    rfl
  have htheorem := any_interleaving { command := .batch choices } choices hfiles hnames outcome
  obtain ⟨-, ⟨schedule, hended⟩, -⟩ := htheorem []
  obtain ⟨-, -, hconclusion⟩ := htheorem schedule
  obtain ⟨hresult, hkeep, -⟩ := hconclusion hended
  obtain ⟨-, hcount, -⟩ := hkeep rfl
  have hpool : (Pool.start (min (max choices.jobs 1) jobs.length)).follow true jobs outcome
      schedule = (Pool.start 2).follow true jobs outcome schedule := by
    rw [hworkers]
  refine ⟨schedule, hpool ▸ hended, ?_, ?_⟩
  · rw [← hpool, ← hlength]
    exact hcount
  · intro hok
    rw [← hpool, ← hlength] at hok
    have hfine := hresult.1 hok _ hfailing
    revert hfine
    decide

end CobolSubset.Batch
