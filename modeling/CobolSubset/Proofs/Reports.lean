import CobolSubset.Proofs.BatchRun
import CobolSubset.Proofs.Figures
import CobolSubset.Proofs.JsonText
import CobolSubset.Proofs.TreeText

/-!
# What is printed tells the figures

The counts of a batch and the figures of a source are only worth something if they can be read off
what is printed. As data they can, since JSON text stands for one value. In the form for people they
stand between words, and in a report behind the failures, whose texts may be anything. But the last
line of a report holds nothing of them, and in it, as in the lines of the figures, a number ends where
its digits do.

So two batches that print the same report have as many successes and as many failures
(`Batch.conclude_tells_counts`), and for two sources the same figures are printed exactly if they
are the same (`Inspect.infoOf_eq_iff`).
-/

namespace CobolSubset

/-- A number ends at the first character that is no digit. -/
theorem Text.ofNat_cancel {m n : Nat} {c : Char} {rest rest' : Text} (hc : c.isDigit = false)
    (h : ofNat m ++ c :: rest = ofNat n ++ c :: rest') : m = n ∧ rest = rest' := by
  obtain ⟨hdigits, hrest⟩ := eq_of_first_mark (not_mem_ofNat hc) (not_mem_ofNat hc) h
  exact ⟨ofNat_injective hdigits, hrest⟩

/-! ### Batches -/

namespace Batch

variable {successful successful' : Nat} {failures failures' : List (Job × Failure)}

def countsLine (successful failed : Nat) : Text :=
  "  ".toList ++ Text.ofNat successful ++ " successful, ".toList ++ Text.ofNat failed
    ++ " failed".toList

theorem newline_not_mem_countsLine (successful failed : Nat) :
    '\n' ∉ countsLine successful failed := by
  have hdigits (n : Nat) : '\n' ∉ Text.ofNat n := Text.not_mem_ofNat rfl
  unfold countsLine
  repeat rw [String.toList_ofList]
  simp [hdigits]

theorem countsLine_injective {failed failed' : Nat}
    (h : countsLine successful failed = countsLine successful' failed') :
    successful = successful' ∧ failed = failed' := by
  unfold countsLine at h
  repeat rw [String.toList_ofList] at h
  simp only [List.append_assoc] at h
  obtain ⟨hsuccessful, hbehind⟩ :=
    @Text.ofNat_cancel successful successful' ' ' _ _ rfl (List.append_cancel_left h)
  have hfailed := @List.append_cancel_left _ "successful, ".toList _ _ hbehind
  exact ⟨hsuccessful, (@Text.ofNat_cancel failed failed' ' ' _ _ rfl hfailed).1⟩

/-- The counts stand on the last line, so the texts of the failures do not get in their way. -/
theorem textReport_tells_counts
    (h : textReport successful failures = textReport successful' failures') :
    successful = successful' ∧ failures.length = failures'.length := by
  have hlast (successful : Nat) (failures : List (Job × Failure)) :
      textReport successful failures =
        (failures.flatMap failureLine ++ "\n[OK] Batch complete!".toList) ++
          '\n' :: countsLine successful failures.length ++ ['\n'] := by
    simp [textReport, countsLine]
  rw [hlast, hlast] at h
  obtain ⟨-, hline⟩ := eq_of_last_mark (newline_not_mem_countsLine _ _)
    (newline_not_mem_countsLine _ _) (List.append_cancel_right h)
  exact countsLine_injective hline

/-- As data a report also tells which files failed, and why. -/
theorem jsonReport_injective
    (h : (jsonReport successful failures).pretty = (jsonReport successful' failures').pretty) :
    successful = successful' ∧
      failures.map (fun failed => (failed.1.input, failed.2.line)) =
        failures'.map (fun failed => (failed.1.input, failed.2.line)) := by
  have hvalue := Json.pretty_injective h
  simp only [jsonReport, Json.object.injEq, List.cons.injEq, Prod.mk.injEq, true_and, and_true,
    Json.ofNat, Json.number.injEq, Int.natCast_inj, Json.array.injEq] at hvalue
  obtain ⟨hsuccessful, hlist⟩ := hvalue
  refine ⟨hsuccessful, ?_⟩
  have hinjective : Function.Injective fun pair : Text × Text =>
      Json.object [("file".toList, .string pair.1), ("error".toList, .string pair.2)] := by
    rintro ⟨file, error⟩ ⟨file', error'⟩ heq
    simpa using heq
  refine hinjective.list_map ?_
  rw [List.map_map, List.map_map]
  exact hlist

theorem report_tells_counts {invocation : Invocation} (hquiet : invocation.quiet = false)
    (h : report invocation successful failures = report invocation successful' failures') :
    successful = successful' ∧ failures.length = failures'.length := by
  unfold report at h
  rw [hquiet] at h
  cases hformat : invocation.format with
  | text =>
      rw [hformat] at h
      exact textReport_tells_counts h
  | json =>
      rw [hformat] at h
      obtain ⟨hsuccessful, hfailures⟩ := jsonReport_injective (List.append_cancel_right h)
      exact ⟨hsuccessful, by simpa using congrArg List.length hfailures⟩

/-- A batch that keeps going prints its report, whether there are failures or not. -/
theorem conclude_output (invocation : Invocation) (total : Nat) (pool : Pool Job Failure) :
    (conclude invocation true total pool).output =
      report invocation pool.succeeded (sorted pool.failures) := by
  unfold conclude
  rw [← sorted]
  cases sorted pool.failures with
  | nil => rfl
  | cons failed more => rfl

/-- **The report tells the counts**: unless nothing is to be printed, two batches that keep going and
print the same have as many successes and as many failures. -/
theorem conclude_tells_counts {invocation : Invocation} (hquiet : invocation.quiet = false)
    {total total' : Nat} {pool pool' : Pool Job Failure}
    (h : (conclude invocation true total pool).output =
      (conclude invocation true total' pool').output) :
    pool.succeeded = pool'.succeeded ∧ pool.failures.length = pool'.failures.length := by
  rw [conclude_output, conclude_output] at h
  obtain ⟨hsucceeded, hfailures⟩ := report_tells_counts hquiet h
  refine ⟨hsucceeded, ?_⟩
  simpa [sorted, List.length_mergeSort] using hfailures

end Batch

/-! ### Sources -/

namespace Inspect

variable {info info' : Info}

theorem figure_cancel {label : String} {m n : Nat} {rest rest' : Text}
    (h : figure label m ++ rest = figure label n ++ rest') : m = n ∧ rest = rest' := by
  simp only [figure, List.append_assoc] at h
  exact @Text.ofNat_cancel m n '\n' _ _ rfl (List.append_cancel_left h)

def countLine (entry : Kind × Nat) : Text :=
  "    ".toList ++ entry.1.name ++ Text.ofNat entry.2 ++ ['\n']

theorem not_isDigit_name (kind : Kind) : kind.name.all (fun c => !c.isDigit) = true := by
  cases kind <;> rfl

/-- The name of a kind has no digits, so it ends where its count starts. -/
theorem countLine_prefixFree : PrefixFree (fun _ => True) countLine where
  ne_nil _ := List.append_ne_nil_of_right_ne_nil _ (List.cons_ne_nil _ _)
  cancel {a b rest rest'} _ _ h := by
    unfold countLine at h
    rw [String.toList_ofList] at h
    simp only [List.append_assoc] at h
    have hname (entry : Kind × Nat) (rest : Text) :
        (entry.1.name ++ (Text.ofNat entry.2 ++ rest)).takeWhile (fun c => !c.isDigit) =
          entry.1.name := by
      obtain ⟨c, more, hdigits⟩ := List.exists_cons_of_ne_nil (Text.ofNat_ne_nil entry.2)
      have hc : c.isDigit = true := Text.isDigit_of_mem_ofNat (hdigits ▸ List.mem_cons_self)
      refine Text.takeWhile_append_of_stops (List.all_eq_true.1 (not_isDigit_name _)) ?_
      simp [hdigits, hc]
    have hbehind := List.append_cancel_left h
    have hkind : a.1.name = b.1.name := by
      rw [← hname a (['\n'] ++ rest), hbehind, hname]
    rw [hkind] at hbehind
    obtain ⟨hcount, hrest⟩ :=
      @Text.ofNat_cancel a.2 b.2 '\n' rest rest' rfl (List.append_cancel_left hbehind)
    exact ⟨Prod.ext (Kind.name_injective hkind) hcount, hrest⟩

def Info.heading (path : Path) : Text :=
  "\nFile Analysis: ".toList ++ path ++ '\n' :: List.replicate 50 '─' ++ ['\n']

theorem Info.text_eq (info : Info) (path : Path) :
    info.text path = heading path ++ (figure "  Total lines:   " info.totalLines ++
      (figure "  Code lines:    " info.codeLines ++ (figure "  Comment lines: " info.commentLines ++
        (figure "  Blank lines:   " info.blankLines ++ (figure "  Tokens:        " info.tokens ++
          ("\n  Statements:\n".toList ++ info.statements.flatMap countLine)))))) := by
  simp only [← List.append_assoc]
  rfl

theorem Info.text_injective (path : Path) (h : info.text path = info'.text path) : info = info' := by
  rw [Info.text_eq, Info.text_eq] at h
  obtain ⟨htotal, h⟩ := figure_cancel (List.append_cancel_left h)
  obtain ⟨hcode, h⟩ := figure_cancel h
  obtain ⟨hcomment, h⟩ := figure_cancel h
  obtain ⟨hblank, h⟩ := figure_cancel h
  obtain ⟨htokens, h⟩ := figure_cancel h
  have hstatements : info.statements = info'.statements :=
    countLine_prefixFree.flatMap_injOn (fun _ _ => trivial) (fun _ _ => trivial)
      (List.append_cancel_left h)
  cases info
  cases info'
  rw [Info.mk.injEq]
  exact ⟨htotal, hcode, hblank, hcomment, htokens, hstatements⟩

theorem Info.toJson_injective (path : Path) (h : info.toJson path = info'.toJson path) :
    info = info' := by
  simp only [Info.toJson, Json.object.injEq, List.cons.injEq, Prod.mk.injEq, true_and, and_true,
    Json.ofNat, Json.number.injEq, Int.natCast_inj, Json.array.injEq] at h
  obtain ⟨htotal, hcode, hblank, hcomment, htokens, hlist⟩ := h
  have hinjective : Function.Injective fun entry : Kind × Nat =>
      Json.object [("kind".toList, .string entry.1.name), ("count".toList, .ofNat entry.2)] := by
    rintro ⟨kind, n⟩ ⟨kind', n'⟩ heq
    simp only [Json.object.injEq, List.cons.injEq, Prod.mk.injEq, true_and, and_true,
      Json.string.injEq, Json.ofNat, Json.number.injEq, Int.natCast_inj] at heq
    exact Prod.ext (Kind.name_injective heq.1) heq.2
  have hstatements : info.statements = info'.statements := hinjective.list_map hlist
  cases info
  cases info'
  rw [Info.mk.injEq]
  exact ⟨htotal, hcode, hblank, hcomment, htokens, hstatements⟩

theorem present_injective {format : Format} {path : Path}
    (h : present format (info.text path) (info.toJson path) =
      present format (info'.text path) (info'.toJson path)) : info = info' := by
  cases format with
  | text => exact Info.text_injective path h
  | json => exact Info.toJson_injective path (Json.pretty_injective (List.append_cancel_right h))

/-- **What is printed about a source tells its figures**, in either format. -/
theorem infoOf_eq_iff {source source' : Text} {tokens tokens' : List Token} {root root' : Node}
    (htokens : RuleSet.standard.tokenize source = .ok tokens)
    (hparse : RuleSet.standard.parse source = .ok root)
    (htokens' : RuleSet.standard.tokenize source' = .ok tokens')
    (hparse' : RuleSet.standard.parse source' = .ok root') (format : Format) (path : Path) :
    infoOf format path source = infoOf format path source' ↔
      Info.ofSource source tokens root = Info.ofSource source' tokens' root' := by
  rw [infoOf_of_parse htokens hparse, infoOf_of_parse htokens' hparse', Except.ok.injEq]
  constructor
  · exact present_injective
  · intro h
    rw [h]

end Inspect

end CobolSubset
