import CobolSubset.Files.SourceName
import CobolSubset.Proofs.Paths
import Mathlib.Data.List.TakeWhile

/-!
# Joining paths and changing extensions

What a path says about locations is the list of its pieces that are not idle, here called its names.
Joining two paths puts their names one behind the other (`names_join`).

A file name has an extension exactly if it has a point with something before it
(`exists_of_cutExtension`, `cutExtension_append`). Replacing the extension only changes the end of a
path (`withExtension_join`). There is one name for which it does not do what it should: `..cob` loses
its extension and becomes two points, which is no file name any more.
-/

namespace CobolSubset.Path

/-! ### Names -/

/-- The pieces of a path that mean something. -/
def names (path : Path) : List Text := (pieces path).filter (!isIdle ·)

theorem names_append (before after : Text) :
    names (before ++ '/' :: after) = names before ++ names after := by
  unfold names
  rw [pieces_append, List.filter_append]

/-- Joining a relative path adds its names at the end. -/
theorem names_join {path : Path} (h : isAbsolute path = false) (base : Path) :
    names (join base path) = names base ++ names path := by
  rcases join_cases h base with ⟨rfl, hjoin⟩ | ⟨-, front, rfl | rfl, hjoin⟩
  · rw [hjoin]
    rfl
  · rw [hjoin, names_append]
  · rw [hjoin, names_append, names_append]
    show _ = names front ++ [] ++ _
    rw [List.append_nil]

/-- The start of a path is no name. -/
theorem names_splitStart (path : Path) : names (splitStart path).2 = names path := by
  unfold splitStart
  split
  · next hstart =>
      rcases Bool.or_eq_true_iff.1 hstart with habsolute | hhere
      · unfold isAbsolute at habsolute
        split at habsolute
        · next rest => exact (names_append [] rest).symm
        · cases habsolute
      · unfold startsHere at hhere
        split at hhere
        · rfl
        · next rest => exact (names_append [] rest).trans (names_append ['.'] rest).symm
        · cases hhere
  · rfl

/-- A text of more than two characters without slashes can be a file name. -/
theorem isFileName_of_length {name : Text} (hlength : 2 < name.length) (hslash : '/' ∉ name) :
    IsFileName name := by
  refine ⟨?_, hslash⟩
  intro hmem
  simp only [List.mem_cons, List.not_mem_nil, or_false] at hmem
  rcases hmem with rfl | rfl | rfl <;> simp at hlength

theorem IsFileName.isIdle_eq {name : Text} (h : IsFileName name) : isIdle name = false := by
  have hname := h.1
  simp only [List.mem_cons, List.not_mem_nil, or_false, not_or] at hname
  simp [isIdle, hname]

theorem IsFileName.names_eq {name : Text} (h : IsFileName name) : names name = [name] := by
  unfold names
  rw [pieces_of_slash_not_mem h.2]
  simp [h.isIdle_eq]

/-- A file name leads nowhere upwards. -/
theorem IsFileName.up_not_mem_pieces {name : Text} (h : IsFileName name) :
    ['.', '.'] ∉ pieces name := by
  intro hmem
  rw [pieces_of_slash_not_mem h.2, List.mem_singleton] at hmem
  rw [← hmem] at h
  exact h.1 (by decide)

theorem names_join_names {list : List Text} (h : ∀ name ∈ list, IsFileName name) :
    names (Text.join ['/'] list) = list := by
  rcases eq_or_ne list [] with rfl | hne
  · rfl
  · unfold names
    rw [pieces_join hne fun name hname => (h name hname).2, List.filter_eq_self]
    intro name hname
    simp [(h name hname).isIdle_eq]

theorem isAbsolute_join_names {list : List Text} (h : ∀ name ∈ list, IsFileName name) :
    isAbsolute (Text.join ['/'] list) = false := by
  cases list with
  | nil => rfl
  | cons first more =>
      have hfirst := h first List.mem_cons_self
      have hne : first ≠ [] := by
        rintro rfl
        exact hfirst.1 List.mem_cons_self
      rcases eq_or_ne more [] with rfl | hmore
      · have hsingle : Text.join ['/'] [first] = first := List.intercalate_singleton
        rw [hsingle, hfirst.not_isAbsolute]
      · have hjoin : Text.join ['/'] (first :: more) = first ++ ['/'] ++ Text.join ['/'] more :=
          List.intercalate_cons_of_ne_nil hmore
        rw [hjoin, List.append_assoc, isAbsolute_append hne, hfirst.not_isAbsolute]

/-! ### The last piece -/

theorem exists_pieces_join (base path : Path) :
    ∃ front, pieces (join base path) = front ++ pieces path := by
  cases h : isAbsolute path with
  | true => exact ⟨[], by simp [join, h]⟩
  | false =>
      rcases join_cases h base with ⟨-, hjoin⟩ | ⟨-, front, -, hjoin⟩
      · exact ⟨[], by rw [hjoin]; rfl⟩
      · exact ⟨pieces front, by rw [hjoin, pieces_append]⟩

/-- What is written behind a text belongs to its last piece. -/
theorem exists_pieces_append (text : Text) {more : Text} (h : '/' ∉ more) :
    ∃ front last, pieces text = front ++ [last] ∧ pieces (text ++ more) = front ++ [last ++ more] := by
  induction text with
  | nil => exact ⟨[], [], rfl, pieces_of_slash_not_mem h⟩
  | cons c text ih =>
      obtain ⟨front, last, hpieces, happend⟩ := ih
      by_cases hc : c = '/'
      · subst hc
        refine ⟨[] :: front, last, ?_, ?_⟩
        · exact (pieces_append [] text).trans (by rw [hpieces]; rfl)
        · exact (pieces_append [] (text ++ more)).trans (by rw [happend]; rfl)
      · have hne : (c == '/') = false := by simpa using hc
        unfold pieces at hpieces happend ⊢
        simp only [List.cons_append, Text.splitBy, hne, Bool.false_eq_true, if_false, hpieces,
          happend]
        cases front with
        | nil => exact ⟨[], c :: last, rfl, rfl⟩
        | cons first front => exact ⟨(c :: first) :: front, last, rfl, rfl⟩

/-! ### Extensions -/

theorem takeWhile_reverse_append (stem : Text) {extension : Text} (hpoint : '.' ∉ extension) :
    (stem ++ '.' :: extension).reverse.takeWhile (· != '.') = extension.reverse := by
  rw [List.reverse_append, List.reverse_cons, List.append_assoc, List.takeWhile_append_of_pos]
  · simp
  · intro c hc
    simpa using ne_of_mem_of_not_mem (List.mem_reverse.1 hc) hpoint

/-- A name is cut at its last point, provided that something stands before it. -/
theorem cutExtension_append {stem extension : Text} (hstem : stem ≠ []) (hpoint : '.' ∉ extension) :
    cutExtension (stem ++ '.' :: extension) = (stem, some extension) := by
  have hlength := List.length_pos_iff.2 hstem
  unfold cutExtension
  rw [takeWhile_reverse_append stem hpoint]
  simp only [List.length_append, List.length_cons, List.length_reverse, List.reverse_reverse]
  rw [if_pos (by omega)]
  have htake : stem.length + (extension.length + 1) - extension.length - 1 = stem.length := by omega
  rw [htake, List.take_left]

/-- A file name has an extension only if there is a point in it with something before it. -/
theorem exists_of_cutExtension {name extension : Text}
    (h : (cutExtension name).2 = some extension) :
    ∃ stem, stem ≠ [] ∧ '.' ∉ extension ∧ name = stem ++ '.' :: extension := by
  by_cases hpoint : '.' ∈ name.reverse
  · obtain ⟨behind, front, hname, hbehind⟩ := List.eq_append_cons_of_mem hpoint
    have hsplit : name = front.reverse ++ '.' :: behind.reverse := by
      rw [← List.reverse_reverse name, hname]
      simp
    have hnot : '.' ∉ behind.reverse := by simpa using hbehind
    rw [hsplit] at h
    rcases eq_or_ne front.reverse [] with hnil | hfront
    · -- A point at the very start does not count.
      unfold cutExtension at h
      rw [takeWhile_reverse_append _ hnot, hnil] at h
      simp at h
    · rw [cutExtension_append hfront hnot] at h
      cases h
      exact ⟨front.reverse, hfront, hnot, hsplit⟩
  · have hall : name.reverse.takeWhile (· != '.') = name.reverse := by
      rw [List.takeWhile_eq_self_iff]
      intro c hc
      simpa using ne_of_mem_of_not_mem hc hpoint
    unfold cutExtension at h
    rw [hall, if_neg (by simp)] at h
    cases h

theorem behindLastPoint?_append (stem : Text) {extension : Text} (hpoint : '.' ∉ extension) :
    behindLastPoint? (stem ++ '.' :: extension) = some extension := by
  have hnone : ∀ text : Text, '.' ∉ text → behindLastPoint? text = none := by
    intro text htext
    induction text with
    | nil => rfl
    | cons c text ih =>
        rw [List.mem_cons, not_or] at htext
        simp [behindLastPoint?, ih htext.2, Ne.symm htext.1]
  induction stem with
  | nil => simp [behindLastPoint?, hnone extension hpoint]
  | cons c stem ih => simp [behindLastPoint?, ih]

/-- A file with the extension of a COBOL file has the name of one. -/
theorem isCobolName_of_cutExtension {name : Text}
    (h : (cutExtension name).2.any isCobolExtension = true) : isCobolName name = true := by
  obtain ⟨extension, hextension, hcobol⟩ := (Option.any_eq_true _ _).1 h
  obtain ⟨stem, -, hpoint, rfl⟩ := exists_of_cutExtension hextension
  unfold isCobolName
  rw [behindLastPoint?_append stem hpoint]
  exact hcobol

/-! ### File names -/

/-- The file name of a path is what was joined last. -/
theorem fileName?_join {name : Text} (h : IsFileName name) (base : Path) :
    fileName? (join base name) = some name := by
  unfold fileName?
  rw [h.components_join, List.getLast?_concat]

/-- The file name is the last name of the path, if this is one that goes down. -/
theorem exists_names_of_fileName? {path : Path} {name : Text} (h : fileName? path = some name) :
    ∃ front, names path = front ++ [name] ∧ name ≠ ['.', '.'] := by
  have hcomponents : components path =
      startComponents (splitStart path).1 ++ (names path).map Component.ofPiece := by
    rw [← names_splitStart]
    rfl
  unfold fileName? at h
  rw [hcomponents] at h
  rcases List.eq_nil_or_concat (names path) with hnil | ⟨front, last, hlast⟩
  · -- Only a start, which is no name.
    rw [hnil, List.map_nil, List.append_nil] at h
    unfold startComponents at h
    split at h
    · next n heq =>
        split at heq <;> cases heq
    · cases h
  · rw [hlast, List.concat_eq_append, List.map_append, ← List.append_assoc, List.map_singleton,
      List.getLast?_concat] at h
    by_cases hup : last = ['.', '.']
    · simp [Component.ofPiece, hup] at h
    · simp only [Component.ofPiece, if_neg hup, Option.some.injEq] at h
      subst h
      exact ⟨front, hlast.trans List.concat_eq_append, hup⟩

/-- What a path gives as its file name is one. -/
theorem isFileName_of_fileName? {path : Path} {name : Text} (h : fileName? path = some name) :
    IsFileName name := by
  obtain ⟨front, hnames, hup⟩ := exists_names_of_fileName? h
  have hmem : name ∈ names path := by simp [hnames]
  obtain ⟨hpiece, hidle⟩ := List.mem_filter.1 hmem
  refine ⟨?_, slash_not_mem_of_mem_pieces hpiece⟩
  simp only [isIdle, Bool.not_eq_true', Bool.or_eq_false_iff, beq_eq_false_iff_ne] at hidle
  simp [hidle, hup]

theorem exists_pieces_body {name : Text} (h : IsFileName name) (base : Path) :
    ∃ front, pieces (splitStart (join base name)).2 = front ++ [name] := by
  have hname : pieces name = [name] := pieces_of_slash_not_mem h.2
  rcases join_cases h.not_isAbsolute base with ⟨-, hjoin⟩ | ⟨-, front, -, hjoin⟩
  · refine ⟨[], ?_⟩
    rw [hjoin, splitStart, h.not_isAbsolute, h.not_startsHere]
    exact hname
  · rw [hjoin]
    rcases eq_or_ne front [] with rfl | hfront
    · exact ⟨[], hname⟩
    · refine ⟨pieces (splitStart front).2, ?_⟩
      rw [splitStart_append hfront, pieces_append, hname]

theorem upToName_join {name : Text} (h : IsFileName name) (base : Path) :
    upToName (join base name) = join base name := by
  obtain ⟨front, hpieces⟩ := exists_pieces_body h base
  have htrim : trimEnd (pieces (splitStart (join base name)).2) =
      pieces (splitStart (join base name)).2 := by
    unfold trimEnd
    rw [hpieces, List.reverse_append]
    simp [h.isIdle_eq]
  unfold upToName
  show (splitStart (join base name)).1 ++
    Text.join ['/'] (trimEnd (pieces (splitStart (join base name)).2)) = _
  rw [htrim, join_pieces, splitStart_append_splitStart]

/-- Joining puts something in front that does not depend on what is joined. -/
theorem exists_join_eq_append (base : Path) :
    ∃ front, ∀ path, isAbsolute path = false → join base path = front ++ path := by
  by_cases hslash : base.isEmpty || base.getLast? = some '/'
  · refine ⟨base, ?_⟩
    intro path hpath
    simp only [join, hpath, hslash, Bool.false_eq_true, if_false, if_true]
  · refine ⟨base ++ ['/'], ?_⟩
    intro path hpath
    simp only [join, hpath, hslash, Bool.false_eq_true, if_false]
    simp

theorem isAbsolute_of_slash_not_mem {path : Path} (h : '/' ∉ path) : isAbsolute path = false := by
  unfold isAbsolute
  split
  · exact absurd List.mem_cons_self h
  · rfl

/-- An extension goes behind the point that a name ends with. -/
theorem setExtension_join {stem : Text} (hstem : stem ≠ []) (hname : IsFileName (stem ++ ['.']))
    (base : Path) {new : Text} (hnew : '/' ∉ new) :
    setExtension (join base (stem ++ ['.'])) new = join base (stem ++ '.' :: new) := by
  obtain ⟨front, hfront⟩ := exists_join_eq_append base
  have habsolute : isAbsolute (stem ++ '.' :: new) = false := by
    apply isAbsolute_of_slash_not_mem
    have hslash := hname.2
    simp_all
  unfold setExtension
  rw [fileName?_join hname, upToName_join hname]
  dsimp only
  rw [cutExtension_append hstem List.not_mem_nil, hfront _ hname.not_isAbsolute,
    hfront _ habsolute]
  have hassoc : front ++ (stem ++ ['.']) = front ++ stem ++ ['.'] := by simp
  have hlength : (front ++ stem ++ ['.']).length - ((stem ++ ['.']).length - stem.length) =
      (front ++ stem).length := by simp
  rw [hassoc, hlength, List.take_left]
  simp

/-- Two points are no file name, so there is nothing to put an extension to. -/
theorem setExtension_join_up (base : Path) (new : Text) :
    setExtension (join base ['.', '.']) new = join base ['.', '.'] := by
  have hlast : (join base ['.', '.']).components.getLast? = some .up := by
    rw [components_join rfl rfl]
    exact List.getLast?_concat
  have hnone : fileName? (join base ['.', '.']) = none := by
    unfold fileName?
    rw [hlast]
  unfold setExtension
  rw [hnone]

/-- Replacing the extension of a file in a directory. -/
theorem withExtension_join {stem extension : Text} (hname : IsFileName (stem ++ '.' :: extension))
    (hstem : stem ≠ []) (hpoint : '.' ∉ extension) (base : Path) {new : Text} (hnew : '/' ∉ new) :
    withExtension (join base (stem ++ '.' :: extension)) new =
      join base (if stem = ['.'] then ['.', '.'] else stem ++ '.' :: new) := by
  obtain ⟨front, hfront⟩ := exists_join_eq_append base
  have hslash : '/' ∉ stem ++ ['.'] := by
    have hslash := hname.2
    simp_all
  have hextension : extension? (join base (stem ++ '.' :: extension)) = some extension := by
    unfold extension?
    rw [fileName?_join hname, Option.bind_some, cutExtension_append hstem hpoint]
  -- First the old extension is cut off, and the point before it stays.
  have hcut : (join base (stem ++ '.' :: extension)).take
      ((join base (stem ++ '.' :: extension)).length - extension.length) =
        join base (stem ++ ['.']) := by
    have hassoc : front ++ (stem ++ '.' :: extension) = front ++ (stem ++ ['.']) ++ extension := by
      simp
    rw [hfront _ hname.not_isAbsolute, hfront _ (isAbsolute_of_slash_not_mem hslash), hassoc,
      List.length_append, Nat.add_sub_cancel, List.take_left]
  unfold withExtension
  rw [hextension]
  dsimp only
  rw [hcut]
  by_cases hup : stem = ['.']
  · rw [if_pos hup, hup]
    exact setExtension_join_up base new
  · rw [if_neg hup]
    apply setExtension_join hstem _ base hnew
    refine ⟨?_, hslash⟩
    simp only [List.mem_cons, List.not_mem_nil, or_false, not_or]
    refine ⟨by simp, ?_, ?_⟩
    · intro heq
      exact hstem (List.append_inj' (heq.trans (List.nil_append ['.']).symm) rfl).1
    · intro heq
      have hpoints : stem ++ ['.'] = ['.'] ++ ['.'] := heq
      exact hup (List.append_inj' hpoints rfl).1

end CobolSubset.Path
