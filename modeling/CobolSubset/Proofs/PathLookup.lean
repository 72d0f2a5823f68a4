import CobolSubset.Files.Tree
import CobolSubset.Outcome
import CobolSubset.Proofs.Paths

/-!
# Where paths lead

A path can be followed in a tree if there is a directory wherever it goes on (`follow_eq_ok_iff`).
Where it leads then depends on its pieces alone, not on the tree. So a path that led somewhere still
leads there when directories were added (`Grows.locate`).

An operation that adds an entry needs a path that ends in a name, and a directory before it. `Names`
says this without looking at the operations, and each operation succeeds exactly if it holds and the
entry itself is not in the way (`write_eq_ok_iff`, `createDirectory_eq_ok_iff`).
-/

namespace CobolSubset

namespace FileTree

variable {tree tree' tree'' : FileTree} {path : Path} {location location' : Location}

/-! ### Following paths -/

theorem expectDirectory_eq_ok_iff :
    tree.expectDirectory location = .ok () ↔ tree.get? location = some .directory := by
  unfold expectDirectory
  split <;> simp_all

/-- Where a piece of a path leads from a location. -/
def turn (location : Location) (piece : Text) : Location :=
  if Path.isIdle piece then location
  else if piece = ['.', '.'] then location.dropLast
  else location ++ [piece]

/-- A name leads one step down. -/
theorem turn_of_isFileName {name : Text} (h : Path.IsFileName name) :
    turn location name = location ++ [name] := by
  have hname := h.1
  simp only [List.mem_cons, List.not_mem_nil, or_false, not_or] at hname
  simp [turn, Path.isIdle, hname]

theorem follow_cons_eq_ok_iff {piece : Text} {rest : List Text} :
    tree.follow location (piece :: rest) = .ok location' ↔
      tree.get? location = some .directory ∧
        tree.follow (turn location piece) rest = .ok location' := by
  have hturn : tree.follow (turn location piece) rest =
      if Path.isIdle piece then tree.follow location rest
      else if piece = ['.', '.'] then tree.follow location.dropLast rest
      else tree.follow (location ++ [piece]) rest := by
    unfold turn
    split_ifs <;> rfl
  rw [follow, bind_eq_ok_iff, hturn]
  constructor
  · rintro ⟨⟨⟩, hdirectory, hrest⟩
    exact ⟨expectDirectory_eq_ok_iff.1 hdirectory, hrest⟩
  · rintro ⟨hdirectory, hrest⟩
    exact ⟨(), expectDirectory_eq_ok_iff.2 hdirectory, hrest⟩

/-- A path can be followed exactly if there is a directory wherever it goes on. Where it leads then
depends on its pieces alone. -/
theorem follow_eq_ok_iff {pieces : List Text} :
    tree.follow location pieces = .ok location' ↔
      (∀ front piece back, pieces = front ++ piece :: back →
        tree.get? (front.foldl turn location) = some .directory) ∧
      location' = pieces.foldl turn location := by
  induction pieces generalizing location with
  | nil => simp [follow, eq_comm]
  | cons first rest ih =>
      rw [follow_cons_eq_ok_iff, ih]
      constructor
      · rintro ⟨hdirectory, hrest, hend⟩
        refine ⟨?_, hend⟩
        intro front piece back heq
        cases front with
        | nil => exact hdirectory
        | cons head front =>
            rw [← (List.cons.inj heq).1]
            exact hrest front piece back (List.cons.inj heq).2
      · rintro ⟨hall, hend⟩
        refine ⟨hall [] first rest rfl, ?_, hend⟩
        intro front piece back heq
        exact hall (first :: front) piece back (heq ▸ rfl)

theorem follow_concat_eq_ok_iff {front : List Text} {piece : Text} :
    tree.follow location (front ++ [piece]) = .ok location' ↔
      ∃ directory, tree.follow location front = .ok directory ∧
        tree.get? directory = some .directory ∧ location' = turn directory piece := by
  induction front generalizing location with
  | nil =>
      rw [List.nil_append, follow_cons_eq_ok_iff]
      simp [follow, eq_comm]
  | cons first front ih =>
      simp only [List.cons_append, follow_cons_eq_ok_iff, ih, and_assoc, exists_and_left]

/-- To locate a path is to follow its pieces from where it starts. -/
theorem locate_eq_ok_iff :
    tree.locate path = .ok location ↔
      path ≠ [] ∧ tree.follow (tree.start path) (Path.pieces path) = .ok location := by
  unfold locate
  split
  · next hempty => simp_all
  · next hempty => simp_all

/-- Where a path leads can be told from its pieces, once it is known where it starts. -/
theorem location_of_locate (h : tree.locate path = .ok location) :
    location = (Path.pieces path).foldl turn (tree.start path) :=
  (follow_eq_ok_iff.1 (locate_eq_ok_iff.1 h).2).2

theorem start_append {directory : Path} (h : directory ≠ []) (more : Text) :
    tree.start (directory ++ more) = tree.start directory := by
  unfold start
  rw [Path.isAbsolute_append h]

/-- The directories that a path goes through are there. -/
theorem exists_directory_of_locate {directory rest : Path} (hdirectory : directory ≠ [])
    (h : tree.locate (directory ++ '/' :: rest) = .ok location) :
    ∃ above, tree.locate directory = .ok above ∧ tree.get? above = some .directory := by
  obtain ⟨-, hfollow⟩ := locate_eq_ok_iff.1 h
  rw [start_append hdirectory, Path.pieces_append, follow_eq_ok_iff] at hfollow
  obtain ⟨hall, -⟩ := hfollow
  refine ⟨_, locate_eq_ok_iff.2 ⟨hdirectory, follow_eq_ok_iff.2 ⟨?_, rfl⟩⟩, ?_⟩
  · intro front piece back heq
    apply hall front piece (back ++ Path.pieces rest)
    rw [heq, List.append_assoc]
    rfl
  · obtain ⟨first, more, hrest⟩ := List.exists_cons_of_ne_nil (Path.pieces_ne_nil rest)
    exact hall _ first more (hrest ▸ rfl)

/-! ### Places for new entries -/

/-- The path ends in a name, the name of an entry in an existing directory. The entry itself may be
there or not. -/
def Names (tree : FileTree) (path : Path) (location : Location) : Prop :=
  ∃ front name directory, Path.pieces path = front ++ [name] ∧ Path.IsFileName name ∧
    tree.follow (tree.start path) front = .ok directory ∧
    tree.get? directory = some .directory ∧ location = directory ++ [name]

theorem Names.getLast?_ne (h : Names tree path location) : path.getLast? ≠ some '/' := by
  obtain ⟨front, name, -, hpieces, hname, -⟩ := h
  refine Path.getLast?_ne_slash hpieces ?_
  rintro rfl
  exact hname.1 List.mem_cons_self

theorem Names.path_ne_nil (h : Names tree path location) : path ≠ [] := by
  rintro rfl
  obtain ⟨front, name, -, hpieces, hname, -⟩ := h
  have hmem : name ∈ Path.pieces [] := by simp [hpieces]
  rw [List.mem_singleton.1 hmem] at hname
  exact hname.1 List.mem_cons_self

theorem Names.ne_nil (h : Names tree path location) : location ≠ [] := by
  obtain ⟨-, name, directory, -, -, -, -, rfl⟩ := h
  simp

theorem Names.locate (h : Names tree path location) : tree.locate path = .ok location := by
  refine locate_eq_ok_iff.2 ⟨h.path_ne_nil, ?_⟩
  obtain ⟨front, name, directory, hpieces, hname, hfollow, hdirectory, rfl⟩ := h
  rw [hpieces, follow_concat_eq_ok_iff]
  exact ⟨directory, hfollow, hdirectory, (turn_of_isFileName hname).symm⟩

/-- A path that ends in a name and can be followed names an entry. -/
theorem names_of_locate {front : List Text} {name : Text}
    (hpieces : Path.pieces path = front ++ [name]) (hname : Path.IsFileName name)
    (h : tree.locate path = .ok location) : Names tree path location := by
  obtain ⟨-, hfollow⟩ := locate_eq_ok_iff.1 h
  rw [hpieces, follow_concat_eq_ok_iff] at hfollow
  obtain ⟨directory, hfront, hdirectory, rfl⟩ := hfollow
  exact ⟨front, name, directory, hpieces, hname, hfront, hdirectory, turn_of_isFileName hname⟩

/-- A place for a new entry is found where the path names one. -/
theorem locateNew_eq_some_iff (hpath : path.getLast? ≠ some '/') :
    tree.locateNew path = .ok (some location) ↔ Names tree path location := by
  rcases eq_or_ne path [] with rfl | hne
  · constructor
    · intro h
      cases h
    · intro h
      exact absurd rfl h.path_ne_nil
  obtain ⟨front, name, hpieces⟩ : ∃ front name, Path.pieces path = front ++ [name] :=
    ⟨_, _, (List.dropLast_append_getLast (Path.pieces_ne_nil path)).symm⟩
  have hlast : name ≠ [] := Path.last_ne_nil hpieces hne hpath
  have hsolid : solidPieces path = front ++ [name] := by
    unfold solidPieces
    rw [hpieces, List.reverse_append]
    simp [hlast]
  have hname : (Path.isIdle name || name == ['.', '.']) = false ↔ Path.IsFileName name := by
    have hmem : name ∈ Path.pieces path := by simp [hpieces]
    have hslash : '/' ∉ name := Path.slash_not_mem_of_mem_pieces hmem
    simp [Path.IsFileName, Path.isIdle, hlast, hslash]
  unfold locateNew
  rw [if_neg (by simpa using hne), hsolid, List.getLast?_concat, List.dropLast_concat]
  constructor
  · intro h
    obtain ⟨directory, hfollow, h⟩ := bind_eq_ok_iff.1 h
    obtain ⟨⟨⟩, hdirectory, h⟩ := bind_eq_ok_iff.1 h
    cases hidle : (Path.isIdle name || name == ['.', '.']) with
    | true =>
        rw [hidle] at h
        cases h
    | false =>
        rw [hidle] at h
        cases h
        exact ⟨front, name, directory, hpieces, hname.1 hidle, hfollow,
          expectDirectory_eq_ok_iff.1 hdirectory, rfl⟩
  · rintro ⟨front', name', directory, hpieces', hname', hfollow, hdirectory, rfl⟩
    obtain ⟨rfl, hsingle⟩ := List.append_inj' (hpieces.symm.trans hpieces') rfl
    cases hsingle
    refine bind_eq_ok_iff.2 ⟨directory, hfollow, bind_eq_ok_iff.2 ⟨(), ?_, ?_⟩⟩
    · exact expectDirectory_eq_ok_iff.2 hdirectory
    · rw [hname.2 hname']
      rfl

/-! ### Operations -/

/-- Writing puts a text at the place that the path names, unless a directory is there. -/
theorem write_eq_ok_iff {content : Text} :
    tree.write path content = .ok tree' ↔
      ∃ location, Names tree path location ∧ tree.get? location ≠ some .directory ∧
        tree' = tree.put location (.text content) := by
  unfold write
  rw [bind_eq_ok_iff]
  constructor
  · rintro ⟨place, hplace, h⟩
    cases place with
    | none => cases h
    | some location =>
        by_cases hpath : path.getLast? = some '/'
        · simp [hpath] at h
        · by_cases hdirectory : tree.get? location = some .directory
          · simp [hdirectory] at h
          · simp only [hpath, hdirectory, decide_false, Bool.or_false, Bool.false_eq_true, if_false,
              Except.ok.injEq] at h
            exact ⟨location, (locateNew_eq_some_iff hpath).1 hplace, hdirectory, h.symm⟩
  · rintro ⟨location, hnames, hdirectory, rfl⟩
    refine ⟨some location, (locateNew_eq_some_iff hnames.getLast?_ne).2 hnames, ?_⟩
    simp [hnames.getLast?_ne, hdirectory]

/-- A directory is made where nothing is. -/
theorem createDirectory_eq_ok_iff (hpath : path.getLast? ≠ some '/') :
    tree.createDirectory path = .ok tree' ↔
      ∃ location, Names tree path location ∧ tree.get? location = none ∧
        tree' = tree.put location .directory := by
  unfold createDirectory
  rw [bind_eq_ok_iff]
  constructor
  · rintro ⟨place, hplace, h⟩
    cases place with
    | none => cases h
    | some location =>
        cases hentry : tree.get? location with
        | some entry => simp [hentry] at h
        | none =>
            simp only [hentry, Option.isSome_none, Bool.false_eq_true, if_false,
              Except.ok.injEq] at h
            exact ⟨location, (locateNew_eq_some_iff hpath).1 hplace, hentry, h.symm⟩
  · rintro ⟨location, hnames, hentry, rfl⟩
    refine ⟨some location, (locateNew_eq_some_iff hpath).2 hnames, ?_⟩
    simp [hentry]

theorem isDirectory_iff :
    tree.isDirectory path = true ↔
      ∃ location, tree.locate path = .ok location ∧ tree.get? location = some .directory := by
  unfold isDirectory
  split
  · next location hlocate => simp [hlocate]
  · next e hlocate => simp [hlocate]

theorem read_of_locate (h : tree.locate path = .ok location) {content : Text} :
    tree.read path = .ok content ↔ tree.get? location = some (.text content) := by
  unfold read
  rw [h]
  simp only [bind, Except.bind]
  split <;> simp_all

/-- What is read depends on the entry at the end of the path alone. -/
theorem read_congr (h : tree.locate path = .ok location) (h' : tree'.locate path = .ok location)
    (hentry : tree'.get? location = tree.get? location) : tree'.read path = tree.read path := by
  unfold read
  rw [h, h']
  simp only [bind, Except.bind, hentry]

/-- Writing down what is already there changes nothing. -/
theorem put_eq_self (hlocation : location ≠ []) {entry : Entry}
    (h : tree.get? location = some entry) : tree.put location entry = tree := by
  have hinsert : ∀ entries : List (Location × Entry),
      (entries.find? fun e => e.1 == location).map (·.2) = some entry →
        insert location entry entries = entries := by
    intro entries
    induction entries with
    | nil => simp
    | cons head rest ih =>
        obtain ⟨key, old⟩ := head
        by_cases hkey : key = location
        · subst hkey
          intro hfind
          simp only [List.find?_cons_of_pos, beq_self_eq_true, Option.map_some,
            Option.some.injEq] at hfind
          simp [insert, hfind]
        · intro hfind
          rw [List.find?_cons_of_neg (by simpa using hkey)] at hfind
          simp [insert, hkey, ih hfind]
  unfold get? at h
  rw [if_neg (by simpa using hlocation)] at h
  unfold put
  rw [hinsert _ h]

/-! ### Trees that grow -/

/-- Whatever was a directory still is one. -/
structure Grows (tree tree' : FileTree) : Prop where
  home : tree'.home = tree.home
  directories : ∀ location, tree.get? location = some .directory →
    tree'.get? location = some .directory

namespace Grows

theorem refl (tree : FileTree) : Grows tree tree := ⟨rfl, fun _ h => h⟩

theorem trans (h : Grows tree tree') (h' : Grows tree' tree'') : Grows tree tree'' :=
  ⟨h'.home.trans h.home, fun location hlocation =>
    h'.directories location (h.directories location hlocation)⟩

variable (h : Grows tree tree')
include h

theorem start_eq (path : Path) : tree'.start path = tree.start path := by
  unfold start
  rw [h.home]

/-- Paths that can be followed can still be followed in a tree that has grown. -/
theorem follow {pieces : List Text} (hfollow : tree.follow location pieces = .ok location') :
    tree'.follow location pieces = .ok location' := by
  obtain ⟨hall, hend⟩ := follow_eq_ok_iff.1 hfollow
  refine follow_eq_ok_iff.2 ⟨?_, hend⟩
  intro front piece back heq
  exact h.directories _ (hall front piece back heq)

/-- A path that leads somewhere keeps leading there. -/
theorem locate (hlocate : tree.locate path = .ok location) : tree'.locate path = .ok location := by
  obtain ⟨hpath, hfollow⟩ := locate_eq_ok_iff.1 hlocate
  rw [locate_eq_ok_iff, h.start_eq]
  exact ⟨hpath, h.follow hfollow⟩

theorem names (hnames : Names tree path location) : Names tree' path location := by
  obtain ⟨front, name, directory, hpieces, hname, hfollow, hdirectory, hlocation⟩ := hnames
  refine ⟨front, name, directory, hpieces, hname, ?_, h.directories _ hdirectory, hlocation⟩
  rw [h.start_eq]
  exact h.follow hfollow

/-- To put an entry where no directory is takes none away. -/
theorem put (hnames : Names tree' path location') {entry : Entry}
    (hentry : tree'.get? location' ≠ some .directory) : Grows tree (tree'.put location' entry) := by
  refine h.trans ⟨rfl, ?_⟩
  intro location hlocation
  rw [get?_put _ hnames.ne_nil, if_neg]
  · exact hlocation
  · rintro rfl
    exact hentry hlocation

end Grows

end FileTree

end CobolSubset
