import CobolSubset.Proofs.JobEffect
import CobolSubset.Proofs.SharedState
import CobolSubset.Proofs.Sources

/-!
# What a batch does to the files

A batch that cannot scan its directory, or finds two jobs with the same output, changes nothing.
Otherwise its jobs are done one after the other, in an order that is up to the workers. `Progress` is
what holds all along: directories were made above outputs, code was written to outputs, and whatever
was written is still there, because no two outputs are one file. The run lemma is
`progress_of_performed`.

No output has the name of a COBOL file. So the sources stay as they are, also when outputs stand
between them, and a batch that has done everything finds the same jobs again and has nothing to
change. All of this is put together in `run_on_files`.
-/

namespace CobolSubset.Batch

open FileTree

/-! ### Collisions -/

def Collide (jobs : List Job) : Prop :=
  ∃ first second, [first, second].Sublist jobs ∧ Path.same first.output second.output = true

/-- No collision is found just if the outputs are different, among themselves and from those
before. -/
theorem collision?_eq_none_iff {before jobs : List Job} :
    collision? before jobs = none ↔
      (∀ other ∈ before, ∀ job ∈ jobs, Path.same other.output job.output = false) ∧
        jobs.Pairwise fun a b => Path.same a.output b.output = false := by
  induction jobs generalizing before with
  | nil => simp [collision?]
  | cons job more ih =>
      rw [collision?, List.pairwise_cons]
      cases hfind : before.find? fun other : Job => Path.same other.output job.output with
      | some other =>
          have hsame : Path.same other.output job.output = true :=
            List.find?_some (p := fun other : Job => Path.same other.output job.output) hfind
          constructor
          · intro h
            cases h
          · rintro ⟨hbefore, -⟩
            have hdifferent := hbefore other (List.mem_of_find?_eq_some hfind) job
              List.mem_cons_self
            rw [hsame] at hdifferent
            cases hdifferent
      | none =>
          have hnone := List.find?_eq_none.1 hfind
          rw [ih]
          simp only [List.forall_mem_cons]
          constructor
          · rintro ⟨⟨hjob, hbefore⟩, hmore⟩
            refine ⟨?_, hjob, hmore⟩
            intro other hother
            exact ⟨by simpa using hnone other hother, hbefore other hother⟩
          · rintro ⟨hbefore, hjob, hmore⟩
            exact ⟨⟨hjob, fun other hother => (hbefore other hother).2⟩, hmore⟩

theorem not_collide_iff {jobs : List Job} :
    ¬ Collide jobs ↔ jobs.Pairwise fun a b => Path.same a.output b.output = false := by
  rw [List.pairwise_iff_forall_sublist]
  constructor
  · intro h first second hsublist
    cases hsame : Path.same first.output second.output with
    | false => rfl
    | true => exact absurd ⟨first, second, hsublist, hsame⟩ h
  · rintro h ⟨first, second, hsublist, hsame⟩
    rw [h hsublist] at hsame
    cases hsame

theorem collision?_eq_none {jobs : List Job} (h : ¬ Collide jobs) : collision? [] jobs = none :=
  collision?_eq_none_iff.2 ⟨by simp, not_collide_iff.1 h⟩

/-- A collision is found if there is one. -/
theorem exists_collision? {jobs : List Job} (h : Collide jobs) :
    ∃ first second, collision? [] jobs = some (first, second) := by
  cases hcollision : collision? [] jobs with
  | none => exact absurd h (not_collide_iff.2 (collision?_eq_none_iff.1 hcollision).2)
  | some pair => exact ⟨pair.1, pair.2, rfl⟩

/-- Without a collision a job is known by its output. -/
theorem eq_of_output_eq {jobs : List Job} (h : ¬ Collide jobs) {a b : Job} (ha : a ∈ jobs)
    (hb : b ∈ jobs) (houtput : a.output = b.output) : a = b := by
  have hsymmetric : Std.Symm fun a b : Job => Path.same a.output b.output = false := by
    constructor
    intro a b hab
    unfold Path.same at hab ⊢
    rw [beq_eq_false_iff_ne] at hab ⊢
    exact hab.symm
  by_contra hne
  have hdifferent := (not_collide_iff.1 h).forall ha hb hne
  rw [houtput] at hdifferent
  simp [Path.same] at hdifferent

/-! ### Planned jobs -/

variable {choices : BatchChoices} {files : List (List Text)} {before now after : FileTree}
  {job : Job} {jobs log : List Job}

/-- The output of a job does not look like a source, so no batch takes it for one. -/
theorem isCobolName_output (h : job ∈ plan choices files) :
    (Path.pieces job.output).getLast?.any isCobolName = false := by
  obtain ⟨list, -, hsource, rfl⟩ := mem_plan_iff.1 h
  rw [output_planFile hsource]
  obtain ⟨front, hjoin⟩ := Path.exists_pieces_join (outputPlace choices list)
    (outputName choices.code (filePath choices.input list))
  obtain ⟨front', last, hpieces, hplain, -⟩ :=
    exists_last_outputName choices.code (filePath choices.input list)
  rw [hjoin, hpieces, ← List.append_assoc, List.getLast?_concat]
  exact hplain

section Planned

variable (hbefore : before.WellFormed)
  (hscan : before.scan choices.input choices.recursive = .ok files)
include hbefore hscan

theorem nodup_keys : ((plan choices files).map fun job => job.input.components).Nodup := by
  apply nodup_plan choices (hbefore.nodup_scan hscan)
  intro names hnames
  obtain ⟨-, -, -, -, -, hvalid⟩ := hbefore.of_mem_scan hscan hnames
  exact hvalid

theorem nodup_jobs : (plan choices files).Nodup := (nodup_keys hbefore hscan).of_map

/-- Two outputs at one place are the same path. -/
theorem output_eq_of_place (hstraight : choices.Straight) {a b : Job}
    (ha : a ∈ plan choices files) (hb : b ∈ plan choices files) {location : Location}
    (hplace : Names now a.output location) (hplace' : Names now b.output location) :
    a.output = b.output := by
  obtain ⟨list, hlist, hsource, rfl⟩ := mem_plan_iff.1 ha
  obtain ⟨list', hlist', hsource', rfl⟩ := mem_plan_iff.1 hb
  obtain ⟨-, -, -, -, -, hvalid⟩ := hbefore.of_mem_scan hscan hlist
  obtain ⟨-, -, -, -, -, hvalid'⟩ := hbefore.of_mem_scan hscan hlist'
  exact output_eq_of_names hstraight hvalid hvalid' hsource hsource' hplace hplace'

/-- The code for a source is the same at any time of the batch. -/
theorem translates_iff {made : Path → Prop} {written : Path → Text → Prop}
    (hedits : Edits made written before now)
    (hplain : ∀ path content, written path content →
      (Path.pieces path).getLast?.any isCobolName = false)
    (hjob : job ∈ plan choices files) {symbols : SymbolTable} {code : Text} :
    job.Translates now symbols code ↔ job.Translates before symbols code := by
  obtain ⟨list, hlist, hsource, rfl⟩ := mem_plan_iff.1 hjob
  obtain ⟨location, entry, hlocate, hentry, hfile, -⟩ := hbefore.of_mem_scan hscan hlist
  have hread := hedits.read_eq hbefore hplain hlocate hentry hfile hsource
  unfold Job.Translates
  show (∃ source, now.read (filePath choices.input list) = _ ∧ _) ↔
    ∃ source, before.read (filePath choices.input list) = _ ∧ _
  rw [hread]

end Planned

/-! ### One job -/

/-- A job, without the number of lines. -/
def work (symbols : SymbolTable) (job : Job) : StateM FileTree (Except Failure Unit) :=
  ((Job.run FileTree.disk symbols job).map fun _ => ()).run

/-- Only whether a job succeeds is kept of its result. -/
theorem work_eq {symbols : SymbolTable} {result : Except Failure Nat}
    (h : Job.run FileTree.disk symbols job before = (result, after)) :
    work symbols job before = (result.map fun _ => (), after) := by
  have hmap : work symbols job before = _ :=
    @bind_state_eq _ _ _ (Job.run FileTree.disk symbols job) _ _ _ _ h
  rw [hmap]
  cases result <;> rfl

/-- A job makes directories above its output. If it ends well it has written the code for its input,
and nothing else. -/
theorem work_cases (symbols : SymbolTable) (job : Job) (before : FileTree) :
    ∃ result after, work symbols job before = (result, after) ∧
      Edits (Path.Above · job.output)
        (fun path code => path = job.output ∧ result = .ok () ∧ job.Translates before symbols code)
        before after ∧
      (result = .ok () → ∃ code location, job.Translates before symbols code ∧
        Names after job.output location ∧ after.get? location = some (.text code)) := by
  rcases Job.run_cases symbols job before with
    ⟨-, e, hrun⟩ | ⟨code, room, htranslates, hroom, ⟨e, hrun⟩ | ⟨location, hnames, hfree, hrun⟩⟩
  · exact ⟨_, _, work_eq hrun, .none, fun hok => by cases hok⟩
  · refine ⟨_, _, work_eq hrun, hroom.mono (fun _ h => h) ?_, fun hok => by cases hok⟩
    intro path content hfalse
    exact hfalse.elim
  · have hgrows : Grows room (room.put location (.text code)) := (Grows.refl room).put hnames hfree
    refine ⟨_, _, work_eq hrun, ?_, ?_⟩
    · refine Edits.write (hroom.mono (fun _ h => h) ?_) ⟨rfl, rfl, htranslates⟩ hnames hfree
      intro path content hfalse
      exact hfalse.elim
    · intro _
      refine ⟨code, location, htranslates, hgrows.names hnames, ?_⟩
      rw [get?_put _ hnames.ne_nil, if_pos rfl]

/-! ### All jobs -/

/-- What has become of the files when the jobs of the log were done, with these outcomes. -/
structure Progress (choices : BatchChoices) (before : FileTree) (jobs : List Job)
    (outcome : Job → Except Failure Unit) (log : List Job) (now : FileTree) : Prop where
  edits : Edits (fun directory => ∃ job ∈ jobs, Path.Above directory job.output)
    (fun path code => ∃ job ∈ log, outcome job = .ok () ∧ path = job.output ∧
      job.Translates before choices.code.symbols code) before now
  stored : ∀ job ∈ log, outcome job = .ok () →
    ∃ code, job.Translates before choices.code.symbols code ∧
      (choices.Straight →
        ∃ location, Names now job.output location ∧ now.get? location = some (.text code))

section Running

variable (hbefore : before.WellFormed)
  (hscan : before.scan choices.input choices.recursive = .ok files)
  (hcollide : ¬ Collide (plan choices files)) {outcome : Job → Except Failure Unit}
include hbefore hscan hcollide

omit hbefore hscan hcollide in
/-- Whatever the jobs have written so far does not look like a source. -/
theorem isCobolName_written (hlog : log ⊆ plan choices files) (path : Path) (content : Text)
    (h : ∃ job ∈ log, outcome job = .ok () ∧ path = job.output ∧
      job.Translates before choices.code.symbols content) :
    (Path.pieces path).getLast?.any isCobolName = false := by
  obtain ⟨job, hjob, -, rfl, -⟩ := h
  exact isCobolName_output (hlog hjob)

/-- Another job keeps what was written before it. -/
theorem Progress.step (h : Progress choices before (plan choices files) outcome log now)
    (hlog : log ⊆ plan choices files) (hjob : job ∈ plan choices files) (hfresh : job ∉ log)
    (hwork : work choices.code.symbols job now = (outcome job, after)) :
    Progress choices before (plan choices files) outcome (log ++ [job]) after := by
  obtain ⟨result, changed, hcases, hedits, hstored⟩ := work_cases choices.code.symbols job now
  obtain ⟨rfl, rfl⟩ := Prod.mk.inj (hwork.symm.trans hcases)
  have htranslates : ∀ code, job.Translates now choices.code.symbols code ↔
      job.Translates before choices.code.symbols code :=
    fun code => translates_iff hbefore hscan h.edits (isCobolName_written hlog) hjob
  constructor
  · apply Edits.trans
    · apply h.edits.mono (fun _ hmade => hmade)
      rintro path code ⟨other, hother, hrest⟩
      exact ⟨other, List.mem_append_left _ hother, hrest⟩
    · apply hedits.mono
      · intro directory habove
        exact ⟨job, hjob, habove⟩
      · rintro path code ⟨rfl, hok, hcode⟩
        exact ⟨job, List.mem_append_right _ List.mem_cons_self, hok, rfl, (htranslates code).1 hcode⟩
  · intro other hother hok
    rcases List.mem_append.1 hother with hother | hother
    · obtain ⟨code, hcode, hplace⟩ := h.stored other hother hok
      refine ⟨code, hcode, ?_⟩
      intro hstraight
      obtain ⟨location, hnames, htext⟩ := hplace hstraight
      have hnames' := hedits.grows.names hnames
      refine ⟨location, hnames', ?_⟩
      -- Only the output of the job itself could be in the way, and it is another file.
      rcases hedits.get?_cases location with hsame | ⟨hnone, -⟩ |
        ⟨path, content, ⟨rfl, -⟩, hpath, -⟩
      · rw [hsame, htext]
      · rw [htext] at hnone
        cases hnone
      · have houtput := output_eq_of_place hbefore hscan hstraight (hlog hother) hjob hnames' hpath
        rw [eq_of_output_eq hcollide (hlog hother) hjob houtput] at hother
        exact absurd hother hfresh
    · rw [List.mem_singleton.1 hother] at hok ⊢
      obtain ⟨code, location, hcode, hnames, htext⟩ := hstored hok
      exact ⟨code, (htranslates code).1 hcode, fun _ => ⟨location, hnames, htext⟩⟩

/-- Jobs that are done one after the other make progress. The induction is on the log, with one job
more in each step. -/
theorem progress_of_performed (hnodup : log.Nodup) (hlog : log ⊆ plan choices files)
    (h : Pool.Performed (work choices.code.symbols) outcome before log now) :
    Progress choices before (plan choices files) outcome log now := by
  induction h with
  | start =>
      refine ⟨.none, ?_⟩
      intro job hjob
      cases hjob
  | @task log now after job _ hwork ih =>
      obtain ⟨hfront, -, hdisjoint⟩ := List.nodup_append.1 hnodup
      obtain ⟨hsub, hsub'⟩ := List.append_subset.1 hlog
      apply (ih hfront hsub).step hbefore hscan hcollide hsub (hsub' List.mem_cons_self) _ hwork
      intro hmem
      exact hdisjoint job hmem job List.mem_cons_self rfl

end Running

/-! ### The files afterwards -/

/-- What a batch has done to the files, if these are its jobs and these of them have ended well. -/
structure Effect (choices : BatchChoices) (jobs succeeded : List Job) (before after : FileTree) :
    Prop where
  home : after.home = before.home
  /-- COBOL files keep their content. -/
  sources : ∀ location entry, before.get? location = some entry → entry.isFile = true →
    location.getLast?.any isCobolName = true → after.get? location = some entry
  /-- A location is as it was, or it is that of an output of a job that ended well, or a directory
  was made there, above an output. -/
  frame : ∀ location, after.get? location = before.get? location ∨
    (∃ job ∈ succeeded, after.locate job.output = .ok location) ∨
    (before.get? location = none ∧ after.get? location = some .directory ∧
      ∃ job ∈ jobs, ∃ directory, Path.Above directory job.output ∧
        after.locate directory = .ok location)
  /-- A job that ended well has the code for its input in its output. -/
  written : ∀ job ∈ succeeded, ∃ code, job.Translates before choices.code.symbols code ∧
    (choices.Straight → after.read job.output = .ok code)
  /-- Nothing is written for an input that cannot be read or converted. -/
  unwritten : choices.Straight → ∀ job ∈ jobs,
    (∀ code, ¬ job.Translates before choices.code.symbols code) →
    ∀ location, after.locate job.output = .ok location →
      after.get? location = before.get? location ∨
        (before.get? location = none ∧ after.get? location = some .directory)

/-- An output that is two points leads to a directory. -/
theorem names_or_directory_of_locate (hafter : after.WellFormed) (hjob : job ∈ plan choices files)
    {location : Location} (h : after.locate job.output = .ok location) :
    Names after job.output location ∨ after.get? location = some .directory := by
  obtain ⟨list, -, hsource, rfl⟩ := mem_plan_iff.1 hjob
  rw [output_planFile hsource] at h ⊢
  obtain ⟨front, hjoin⟩ := Path.exists_pieces_join (outputPlace choices list)
    (outputName choices.code (filePath choices.input list))
  obtain ⟨front', last, hpieces, -, hname | hup⟩ :=
    exists_last_outputName choices.code (filePath choices.input list)
  · left
    rw [hpieces, ← List.append_assoc] at hjoin
    exact names_of_locate hjoin hname h
  · right
    rw [hup] at h hjoin
    obtain ⟨-, hfollow⟩ := locate_eq_ok_iff.1 h
    rw [hjoin] at hfollow
    obtain ⟨directory, -, hdirectory, rfl⟩ := follow_concat_eq_ok_iff.1 hfollow
    exact hafter.parent_of_get? hdirectory

section Running

variable (hbefore : before.WellFormed)
  (hscan : before.scan choices.input choices.recursive = .ok files)
  (hcollide : ¬ Collide (plan choices files)) {outcome : Job → Except Failure Unit}
include hbefore hscan hcollide

/-- At the end of a log its successes are the jobs that have an effect. -/
theorem Progress.effect (h : Progress choices before (plan choices files) outcome log after)
    (hlog : log ⊆ plan choices files) :
    Effect choices (plan choices files) (Pool.successes outcome log) before after where
  home := h.edits.grows.home
  sources location entry hentry hfile hname :=
    h.edits.get?_cobolFile hbefore (isCobolName_written hlog) hentry hfile hname
  frame location := by
    rcases h.edits.get?_cases location with hsame | ⟨hnone, hmade, directory, ⟨job, hjob, habove⟩,
      hnames⟩ | ⟨path, content, ⟨job, hjob, hok, rfl, -⟩, hnames, -⟩
    · exact .inl hsame
    · exact .inr (.inr ⟨hnone, hmade, job, hjob, directory, habove, hnames.locate⟩)
    · refine .inr (.inl ⟨job, ?_, hnames.locate⟩)
      exact List.mem_filter.2 ⟨hjob, by rw [hok]; rfl⟩
  written job hjob := by
    obtain ⟨hmem, hisOk⟩ := List.mem_filter.1 hjob
    have hok : outcome job = .ok () := by
      cases houtcome : outcome job with
      | ok => rfl
      | error e =>
          rw [houtcome] at hisOk
          cases hisOk
    obtain ⟨code, hcode, hplace⟩ := h.stored job hmem hok
    refine ⟨code, hcode, ?_⟩
    intro hstraight
    obtain ⟨location, hnames, htext⟩ := hplace hstraight
    exact (read_of_locate hnames.locate).2 htext
  unwritten hstraight job hjob hcode location hlocate := by
    rcases h.edits.get?_cases location with hsame | ⟨hnone, hmade, -⟩ |
      ⟨path, content, ⟨other, hother, -, rfl, htranslates⟩, hnames, htext⟩
    · exact .inl hsame
    · exact .inr ⟨hnone, hmade⟩
    · -- Written by another job, but then it would be the output of that job.
      exfalso
      rcases names_or_directory_of_locate (h.edits.wellFormed hbefore) hjob hlocate with
        hplace | hdirectory
      · have houtput := output_eq_of_place hbefore hscan hstraight hjob (hlog hother) hplace hnames
        rw [← eq_of_output_eq hcollide hjob (hlog hother) houtput] at htranslates
        exact hcode content htranslates
      · rw [htext] at hdirectory
        cases hdirectory

end Running

/-! ### Runs -/

def opening (invocation : Invocation) (choices : BatchChoices) (jobs : List Job) : Text :=
  (if invocation.decorated then heading choices (max choices.jobs 1) else []) ++
    if invocation.decorated then
      "  Found: ".toList ++ Text.ofNat jobs.length ++ " files\n\n".toList
    else []

section Runs

variable (invocation : Invocation) (order : List Nat)

/-- If the directory cannot be scanned nothing is written. -/
theorem run_of_scan_error {e : FileError}
    (hscan : before.scan choices.input choices.recursive = .error e) :
    (∃ failure, (run FileTree.disk invocation choices order before).1.result = .error failure) ∧
      (run FileTree.disk invocation choices order before).2 = before := by
  have hask : FileTree.disk.scan choices.input choices.recursive before = (.error e, before) :=
    congrArg (·, before) hscan
  unfold run
  rw [bind_state_eq hask]
  exact ⟨⟨_, rfl⟩, rfl⟩

/-- A run whose scan has found files adds a heading to the run on these files. -/
theorem run_of_scan (hscan : before.scan choices.input choices.recursive = .ok files) {found : Run}
    (hfound : runFound FileTree.disk invocation choices files order before = (found, after)) :
    run FileTree.disk invocation choices order before =
      ({ found with output :=
          (if invocation.decorated then heading choices (max choices.jobs 1) else []) ++
            found.output }, after) := by
  have hask : FileTree.disk.scan choices.input choices.recursive before = (.ok files, before) :=
    congrArg (·, before) hscan
  unfold run
  rw [bind_state_eq hask]
  exact bind_state_eq hfound

theorem runFound_of_nil (hjobs : plan choices files = []) :
    runFound FileTree.disk invocation choices files order before =
      ({ output := if invocation.quiet then []
          else "[ERR] No COBOL source files found!\n".toList }, before) := by
  unfold runFound
  rw [hjobs]
  rfl

/-- If two outputs are the same nothing is written. -/
theorem runFound_of_collide (hcollide : Collide (plan choices files)) :
    ∃ output failure, runFound FileTree.disk invocation choices files order before =
      ({ output, result := .error failure }, before) := by
  obtain ⟨first, second, hcollision⟩ := exists_collision? hcollide
  have hjobs : plan choices files ≠ [] := by
    intro hnil
    rw [hnil] at hcollision
    cases hcollision
  unfold runFound
  simp only [List.isEmpty_iff, hjobs, if_false, hcollision]
  exact ⟨_, _, rfl⟩

theorem runFound_of_perform (hjobs : plan choices files ≠ [])
    (hcollide : ¬ Collide (plan choices files)) {performed : Run}
    (hperform : perform FileTree.disk invocation choices (plan choices files) order before =
      (performed, after)) :
    runFound FileTree.disk invocation choices files order before =
      ({ performed with output :=
          (if invocation.decorated then
            "  Found: ".toList ++ Text.ofNat (plan choices files).length ++ " files\n\n".toList
          else []) ++ performed.output }, after) := by
  unfold runFound
  simp only [List.isEmpty_iff, hjobs, if_false, collision?_eq_none hcollide]
  exact bind_state_eq hperform

/-- A run without collisions does its jobs one after the other, none of them twice. -/
theorem exists_run (hbefore : before.WellFormed)
    (hscan : before.scan choices.input choices.recursive = .ok files)
    (hcollide : ¬ Collide (plan choices files)) (hjobs : plan choices files ≠ []) :
    ∃ outcome log pool after, run FileTree.disk invocation choices order before =
        ({ conclude invocation choices.keepGoing (plan choices files).length pool with
            output := opening invocation choices (plan choices files) ++
              (conclude invocation choices.keepGoing (plan choices files).length pool).output },
          after) ∧
      Pool.Performed (work choices.code.symbols) outcome before log after ∧
      Pool.Sound choices.keepGoing (plan choices files) outcome log pool ∧ pool.Ended ∧
      pool.workers ≠ [] := by
  obtain ⟨outcome, log, pool, after, hpool, hperformed, hsound, hended, hworkers⟩ :=
    @Pool.exists_performed_run _ _ _ choices.keepGoing _ (work choices.code.symbols)
      (nodup_jobs hbefore hscan) _ (workers_ne_zero_or choices _) order before
  refine ⟨outcome, log, pool, after, ?_, hperformed, hsound, hended, hworkers.resolve_right hjobs⟩
  have hperform : perform FileTree.disk invocation choices (plan choices files) order before =
      (conclude invocation choices.keepGoing (plan choices files).length pool, after) :=
    bind_state_eq hpool
  rw [run_of_scan invocation order hscan
    (runFound_of_perform invocation order hjobs hcollide hperform)]
  simp only [opening, List.append_assoc]

end Runs

/-! ### Reports -/

/-- A run has done these jobs well and failed with these, and its report says so. -/
structure Reported (invocation : Invocation) (choices : BatchChoices) (jobs succeeded : List Job)
    (failed : List (Job × Failure)) (run : Run) : Prop where
  nodup : (succeeded ++ failed.map Prod.fst).Nodup
  subset : succeeded ++ failed.map Prod.fst ⊆ jobs
  /-- Nothing is left undone if the batch keeps going, or if nothing fails. -/
  all : choices.keepGoing = true ∨ failed = [] → (succeeded ++ failed.map Prod.fst).Perm jobs
  result : run.result = (conclude invocation choices.keepGoing jobs.length
    { succeeded := succeeded.length, failures := failed, workers := [] }).result
  output : jobs ≠ [] → (conclude invocation choices.keepGoing jobs.length
    { succeeded := succeeded.length, failures := failed, workers := [] }).output <:+ run.output

section Reports

variable {outcome : Job → Except Failure Unit} {pool : Pool Job Failure}
  (hsound : Pool.Sound choices.keepGoing jobs outcome log pool) (hended : pool.Ended)
  (hworkers : pool.workers ≠ [])
include hsound hended

theorem conclude_recorded (hkeys : (jobs.map fun job => job.input.components).Nodup)
    (invocation : Invocation) :
    conclude invocation choices.keepGoing jobs.length pool =
      conclude invocation choices.keepGoing jobs.length
        { succeeded := (Pool.successes outcome log).length, failures := Pool.errors outcome log,
          workers := [] } := by
  obtain ⟨hsucceeded, hfailures⟩ := hsound.recorded_cases hended
  apply conclude_congr
  · exact hsucceeded
  · apply sorted_eq_of_perm hfailures
    have hfailed := nodup_map_of_subperm hsound.failures_subperm hkeys
    rwa [List.map_map] at hfailed

include hworkers

/-- All jobs are done if the batch keeps going or none of them fails. -/
theorem log_perm_of_errors (h : choices.keepGoing = true ∨ Pool.errors outcome log = []) :
    log.Perm jobs := by
  apply hsound.log_perm hended (.inl hworkers)
  rcases h with hkeep | hnone
  · rw [hkeep] at hsound
    exact hsound.not_stopped
  · apply hsound.not_stopped_of_failures_eq_nil hended
    have hfailures := (hsound.recorded_cases hended).2
    rw [hnone] at hfailures
    exact hfailures.eq_nil

/-- If all jobs that were done have ended well, all jobs were done. -/
theorem conclude_of_all_ok (hok : ∀ job ∈ log, outcome job = .ok ()) (invocation : Invocation) :
    conclude invocation choices.keepGoing jobs.length pool =
      { output := report invocation jobs.length [] } := by
  have hnil : pool.failures = [] := by
    apply List.eq_nil_iff_forall_not_mem.2
    rintro ⟨job, e⟩ hmem
    obtain ⟨hjob, herror⟩ := hsound.of_mem_failures hmem
    rw [hok job hjob] at herror
    cases herror
  have hcount := hsound.succeeded_add_failures hended (.inl hworkers)
    (hsound.not_stopped_of_failures_eq_nil hended hnil)
  rw [hnil, List.length_nil, Nat.add_zero] at hcount
  rw [conclude_of_failures_eq_nil invocation _ _ hnil, hcount]

end Reports

/-! ### Running again -/

/-- Jobs that find everything done leave the files as they are. -/
theorem eq_of_performed_again {symbols : SymbolTable} {outcome : Job → Except Failure Unit}
    (hwork : ∀ job ∈ jobs, work symbols job before = (.ok (), before)) (hlog : log ⊆ jobs)
    (h : Pool.Performed (work symbols) outcome before log after) :
    after = before ∧ ∀ job ∈ log, outcome job = .ok () := by
  induction h with
  | start =>
      refine ⟨rfl, ?_⟩
      intro job hjob
      cases hjob
  | @task log now after job _ hperform ih =>
      obtain ⟨hsub, hsub'⟩ := List.append_subset.1 hlog
      obtain ⟨rfl, hok⟩ := ih hsub
      have hagain := hwork job (hsub' List.mem_cons_self)
      obtain ⟨houtcome, rfl⟩ := Prod.mk.inj (hagain.symm.trans hperform)
      refine ⟨rfl, ?_⟩
      intro other hother
      rcases List.mem_append.1 hother with hother | hother
      · exact hok other hother
      · rw [List.mem_singleton.1 hother, ← houtcome]

/-- A job that has succeeded succeeds again and writes what is there. -/
theorem Progress.work_again {outcome : Job → Except Failure Unit}
    (h : Progress choices before (plan choices files) outcome log after)
    (hbefore : before.WellFormed)
    (hscan : before.scan choices.input choices.recursive = .ok files)
    (hlog : log ⊆ plan choices files) (hstraight : choices.Straight) (hjob : job ∈ log)
    (hok : outcome job = .ok ()) : work choices.code.symbols job after = (.ok (), after) := by
  obtain ⟨code, hcode, hplace⟩ := h.stored job hjob hok
  obtain ⟨location, hnames, htext⟩ := hplace hstraight
  have hcode' := (translates_iff hbefore hscan h.edits (isCobolName_written hlog) (hlog hjob)).2 hcode
  exact work_eq (Job.run_again hcode' hnames htext)

section Running

variable (hbefore : before.WellFormed)
  (hscan : before.scan choices.input choices.recursive = .ok files)
  (hcollide : ¬ Collide (plan choices files)) (invocation : Invocation) (order : List Nat)
include hbefore hscan hcollide

/-- The run, and what has become of the files in it. -/
theorem exists_progress (hjobs : plan choices files ≠ []) :
    ∃ outcome log pool after, run FileTree.disk invocation choices order before =
        ({ conclude invocation choices.keepGoing (plan choices files).length pool with
            output := opening invocation choices (plan choices files) ++
              (conclude invocation choices.keepGoing (plan choices files).length pool).output },
          after) ∧
      Progress choices before (plan choices files) outcome log after ∧
      log.Nodup ∧ log ⊆ plan choices files ∧
      Pool.Sound choices.keepGoing (plan choices files) outcome log pool ∧ pool.Ended ∧
      pool.workers ≠ [] := by
  obtain ⟨outcome, log, pool, after, hrun, hperformed, hsound, hended, hworkers⟩ :=
    exists_run invocation order hbefore hscan hcollide hjobs
  have hsubset : log ⊆ plan choices files := hsound.log_subperm.subset
  have hnodup : log.Nodup := by
    obtain ⟨list, hperm, hsublist⟩ := hsound.log_subperm
    exact hperm.nodup_iff.1 ((nodup_jobs hbefore hscan).sublist hsublist)
  exact ⟨outcome, log, pool, after, hrun,
    progress_of_performed hbefore hscan hcollide hnodup hsubset hperformed, hnodup, hsubset, hsound,
    hended, hworkers⟩

/-- What a batch without collisions has done and reports. -/
theorem exists_reported :
    ∃ succeeded failed,
      Reported invocation choices (plan choices files) succeeded failed
        (run FileTree.disk invocation choices order before).1 ∧
      Effect choices (plan choices files) succeeded before
        (run FileTree.disk invocation choices order before).2 := by
  rcases eq_or_ne (plan choices files) [] with hnil | hjobs
  · have hrun := run_of_scan invocation order hscan (runFound_of_nil invocation order hnil)
    have hnothing : Progress choices before (plan choices files) (fun _ => .ok ()) [] before :=
      ⟨.none, fun job hjob => by cases hjob⟩
    rw [hrun]
    refine ⟨[], [], ⟨List.nodup_nil, List.nil_subset _, ?_, ?_, ?_⟩,
      hnothing.effect hbefore hscan hcollide (List.nil_subset _)⟩
    · intro _
      rw [hnil]
      exact .refl _
    · exact (congrArg Run.result (conclude_of_failures_eq_nil _ _ _ rfl)).symm
    · intro hne
      exact absurd hnil hne
  · obtain ⟨outcome, log, pool, after, hrun, hprogress, hnodup, hsubset, hsound, hended, hworkers⟩ :=
      exists_progress hbefore hscan hcollide invocation order hjobs
    have hperm := Pool.successes_append_errors_perm outcome log
    have hconclude := conclude_recorded hsound hended (nodup_keys hbefore hscan) invocation
    rw [hrun]
    refine ⟨Pool.successes outcome log, Pool.errors outcome log,
      ⟨hperm.nodup_iff.2 hnodup, ?_, ?_, ?_, ?_⟩,
      hprogress.effect hbefore hscan hcollide hsubset⟩
    · intro job hjob
      exact hsubset (hperm.mem_iff.1 hjob)
    · intro hall
      exact hperm.trans (log_perm_of_errors hsound hended hworkers hall)
    · rw [← hconclude]
    · intro _
      rw [← hconclude]
      exact List.suffix_append _ _

/-- A batch that has done everything well has nothing to do when it is run again. -/
theorem run_again (hstraight : choices.Straight)
    (hok : (run FileTree.disk invocation choices order before).1.result = .ok ())
    (again : List Nat) :
    run FileTree.disk invocation choices again
        (run FileTree.disk invocation choices order before).2 =
      run FileTree.disk invocation choices order before := by
  rcases eq_or_ne (plan choices files) [] with hnil | hjobs
  · have hrun := fun order => run_of_scan invocation order hscan (runFound_of_nil invocation order hnil)
    rw [hrun order]
    exact hrun again
  · obtain ⟨outcome, log, pool, after, hrun, hprogress, -, hsubset, hsound, hended, hworkers⟩ :=
      exists_progress hbefore hscan hcollide invocation order hjobs
    rw [hrun] at hok ⊢
    have hnone : pool.failures = [] := (conclude_result_eq_ok_iff _ _ _).1 hok
    have hall := (hsound.failures_eq_nil_iff hended (.inl hworkers)).1 hnone
    have hperm := hsound.log_perm hended (.inl hworkers)
      (hsound.not_stopped_of_failures_eq_nil hended hnone)
    have hwork : ∀ job ∈ plan choices files,
        work choices.code.symbols job after = (.ok (), after) := by
      intro job hjob
      exact hprogress.work_again hbefore hscan hsubset hstraight (hperm.mem_iff.2 hjob)
        (hall job hjob)
    -- The second run plans the same jobs, and each of them finds its code written.
    obtain ⟨files', hscan', hplan⟩ :=
      hprogress.edits.exists_plan_eq hbefore (isCobolName_written hsubset) hscan
    rw [← hplan] at hcollide hjobs hwork
    obtain ⟨outcome', log', pool', after', hrun', hperformed', hsound', hended', hworkers'⟩ :=
      exists_run invocation again (hprogress.edits.wellFormed hbefore) hscan' hcollide hjobs
    obtain ⟨rfl, hall'⟩ :=
      eq_of_performed_again hwork hsound'.log_subperm.subset hperformed'
    rw [hrun', conclude_of_all_ok hsound' hended' hworkers' hall', hplan,
      conclude_of_all_ok hsound hended hworkers fun job hjob => hall job (hsubset hjob)]

end Running

/-- **Files**: a batch that cannot scan its directory, or finds two jobs with the same output, fails
and changes nothing. Otherwise COBOL files keep their content, and there is nothing new but outputs
of jobs that are counted as successful, with the code for their inputs, and directories above
outputs. No output is written for an input that cannot be read or converted. If the batch ends well,
running it again changes nothing and gives the same report.

The workers may make their steps in any order, also in another one the second time. That different
outputs are different files is only so if a given class name does not lead upwards. -/
theorem run_on_files (hbefore : before.WellFormed) (invocation : Invocation)
    (choices : BatchChoices) (order : List Nat) :
    let ended := run FileTree.disk invocation choices order before
    (∀ e, before.scan choices.input choices.recursive = .error e →
      (∃ failure, ended.1.result = .error failure) ∧ ended.2 = before) ∧
    ∀ files, before.scan choices.input choices.recursive = .ok files →
      let jobs := plan choices files
      (Collide jobs → (∃ failure, ended.1.result = .error failure) ∧ ended.2 = before) ∧
      (¬ Collide jobs →
        (∃ succeeded failed, Reported invocation choices jobs succeeded failed ended.1 ∧
          Effect choices jobs succeeded before ended.2) ∧
        (ended.1.result = .ok () → choices.Straight →
          ∀ again, run FileTree.disk invocation choices again ended.2 = ended)) := by
  intro ended
  refine ⟨?_, ?_⟩
  · intro e hscan
    exact run_of_scan_error invocation order hscan
  · intro files hscan jobs
    refine ⟨?_, ?_⟩
    · intro hcollide
      obtain ⟨output, failure, hfound⟩ := runFound_of_collide invocation order hcollide
      have hrun : ended = _ := run_of_scan invocation order hscan hfound
      rw [hrun]
      exact ⟨⟨failure, rfl⟩, rfl⟩
    · intro hcollide
      refine ⟨exists_reported hbefore hscan hcollide invocation order, ?_⟩
      intro hok hstraight again
      exact run_again hbefore hscan hcollide invocation order hstraight hok again

/-- The output directory is in the input directory, and all files below it are taken. -/
theorem run_on_files_nested :
    let choices : BatchChoices :=
      { input := "src".toList, outputDirectory := "src/out".toList, recursive := true }
    let source : Location := ["src".toList, "pay-roll.cob".toList]
    let before : FileTree :=
      { entries := [(["src".toList], .directory), (source, .text "STOP RUN.".toList)] }
    let ended := run FileTree.disk { command := .batch choices } choices [0] before
    before.WellFormed ∧ choices.Straight ∧ ended.1.result = .ok () ∧
      ended.2.get? source = some (.text "STOP RUN.".toList) ∧
      (∃ code, (planFile choices ["pay-roll.cob".toList]).Translates before {} code ∧
        ended.2.read "src/out/PayRoll.java".toList = .ok code) ∧
      run FileTree.disk { command := .batch choices } choices [] ended.2 = ended := by
  intro choices source before ended
  have hbefore : before.WellFormed := by decide
  have hstraight : choices.Straight := by
    intro name hname
    cases hname
  have hscan : before.scan choices.input choices.recursive = .ok [["pay-roll.cob".toList]] := by
    decide
  have hjobs : plan choices [["pay-roll.cob".toList]] =
      [planFile choices ["pay-roll.cob".toList]] := by decide +kernel
  have hcollide : ¬ Collide (plan choices [["pay-roll.cob".toList]]) := by
    rw [hjobs, not_collide_iff]
    exact List.pairwise_singleton _ _
  have hok : ended.1.result = .ok () := by decide +kernel
  obtain ⟨-, hfound⟩ :=
    run_on_files hbefore { command := .batch choices } choices [0]
  obtain ⟨⟨succeeded, failed, hreported, heffect⟩, hagain⟩ := (hfound _ hscan).2 hcollide
  have hnone : failed = [] :=
    (conclude_result_eq_ok_iff _ _ _).1 (hreported.result.symm.trans hok)
  have hsucceeded : planFile choices ["pay-roll.cob".toList] ∈ succeeded := by
    have hperm := hreported.all (.inr hnone)
    rw [hnone, hjobs, List.map_nil, List.append_nil] at hperm
    exact hperm.mem_iff.2 List.mem_cons_self
  obtain ⟨code, hcode, hread⟩ := heffect.written _ hsucceeded
  have houtput : (planFile choices ["pay-roll.cob".toList]).output =
      "src/out/PayRoll.java".toList := by decide
  refine ⟨hbefore, hstraight, hok, ?_, ⟨code, hcode, houtput ▸ hread hstraight⟩,
    hagain hok hstraight []⟩
  exact heffect.sources source _ rfl rfl (by decide)

end CobolSubset.Batch
