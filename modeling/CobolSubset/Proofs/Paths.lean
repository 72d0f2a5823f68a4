import CobolSubset.Files.Path
import Mathlib.Data.List.Nodup

/-!
# Paths and their components

A path is a text, but what it means is the list of its components. The order of paths is that of the
components (`le_trans`, `le_total`), so two paths that come before each other have the same ones
(`components_eq_of_le`).

`components_join` says what becomes of the components when two paths are joined: those of the second
are added, and nothing else. Whether the first path is written with a slash at its end, or with
points in it, does not matter.
-/

namespace CobolSubset

/-! ### Pieces of texts -/

namespace Text

theorem splitBy_ne_nil (p : Char → Bool) (text : Text) : splitBy p text ≠ [] := by
  cases text with
  | nil => exact List.cons_ne_nil _ _
  | cons c text =>
      unfold splitBy
      split
      · exact List.cons_ne_nil _ _
      · split <;> exact List.cons_ne_nil _ _

/-- A character that splits divides the pieces before it from those behind it. -/
theorem splitBy_append_cons (p : Char → Bool) (before after : Text) {c : Char} (hc : p c = true) :
    splitBy p (before ++ c :: after) = splitBy p before ++ splitBy p after := by
  induction before with
  | nil => simp [splitBy, hc]
  | cons d before ih =>
      obtain ⟨first, more, hsplit⟩ := List.exists_cons_of_ne_nil (splitBy_ne_nil p before)
      cases hd : p d with
      | true => simp [splitBy, hd, ih]
      | false => simp [splitBy, hd, ih, hsplit]

theorem splitBy_of_not (p : Char → Bool) {text : Text} (h : ∀ c ∈ text, p c = false) :
    splitBy p text = [text] := by
  induction text with
  | nil => rfl
  | cons c text ih =>
      simp [splitBy, h c, ih fun d hd => h d (List.mem_cons_of_mem _ hd)]

theorem of_mem_splitBy (p : Char → Bool) {text piece : Text} (h : piece ∈ splitBy p text) :
    ∀ c ∈ piece, p c = false := by
  induction text generalizing piece with
  | nil =>
      rw [splitBy, List.mem_singleton] at h
      simp [h]
  | cons d text ih =>
      obtain ⟨first, more, hsplit⟩ := List.exists_cons_of_ne_nil (splitBy_ne_nil p text)
      cases hd : p d with
      | true =>
          simp only [splitBy, hd, if_true, List.mem_cons] at h
          rcases h with rfl | h
          · intro c hc
            cases hc
          · exact ih h
      | false =>
          simp only [splitBy, hd, hsplit, Bool.false_eq_true, if_false, List.mem_cons] at h
          rcases h with rfl | h
          · intro c hc
            rcases List.mem_cons.1 hc with rfl | hc
            · exact hd
            · exact ih (hsplit ▸ List.mem_cons_self) c hc
          · exact ih (hsplit ▸ List.mem_cons_of_mem _ h)

theorem join_append_join (separator : Text) {front back : List Text} (hfront : front ≠ [])
    (hback : back ≠ []) :
    join separator (front ++ back) = join separator front ++ separator ++ join separator back := by
  unfold join
  induction front with
  | nil => exact absurd rfl hfront
  | cons first front ih =>
      rcases eq_or_ne front [] with rfl | hne
      · simp [List.intercalate_cons_of_ne_nil hback]
      · rw [List.cons_append, List.intercalate_cons_of_ne_nil (by simp [hne]), ih hne,
          List.intercalate_cons_of_ne_nil hne]
        simp only [List.append_assoc]

end Text

namespace Path

/-! ### Pieces of paths -/

theorem pieces_ne_nil (text : Text) : pieces text ≠ [] := Text.splitBy_ne_nil _ _

theorem pieces_append (before after : Text) :
    pieces (before ++ '/' :: after) = pieces before ++ pieces after :=
  Text.splitBy_append_cons _ before after rfl

theorem slash_not_mem_of_mem_pieces {text piece : Text} (h : piece ∈ pieces text) : '/' ∉ piece := by
  intro hslash
  have hfalse := Text.of_mem_splitBy _ h '/' hslash
  cases hfalse

theorem pieces_of_slash_not_mem {text : Text} (h : '/' ∉ text) : pieces text = [text] := by
  apply Text.splitBy_of_not
  intro c hc
  simpa using ne_of_mem_of_not_mem hc h

/-- Names without slashes are the pieces of the path that they are joined to. -/
theorem pieces_join {names : List Text} (hne : names ≠ []) (h : ∀ name ∈ names, '/' ∉ name) :
    pieces (Text.join ['/'] names) = names := by
  induction names with
  | nil => exact absurd rfl hne
  | cons first names ih =>
      rw [List.forall_mem_cons] at h
      have hfirst : Text.join ['/'] [first] = first := List.intercalate_singleton
      rcases eq_or_ne names [] with rfl | hmore
      · rw [hfirst]
        exact pieces_of_slash_not_mem h.1
      · have hjoin := Text.join_append_join ['/'] (List.cons_ne_nil first []) hmore
        simp only [List.singleton_append] at hjoin
        rw [hjoin, hfirst, List.append_assoc, List.singleton_append, pieces_append,
          pieces_of_slash_not_mem h.1, ih hmore h.2]
        rfl

/-- The pieces tell the whole path. -/
theorem join_pieces (text : Text) : Text.join ['/'] (pieces text) = text := by
  unfold Text.join pieces
  induction text with
  | nil => rfl
  | cons c text ih =>
      obtain ⟨first, more, hsplit⟩ := List.exists_cons_of_ne_nil (pieces_ne_nil text)
      unfold pieces at hsplit
      by_cases hc : c = '/'
      · subst hc
        simp only [Text.splitBy, beq_self_eq_true, if_true]
        rw [List.intercalate_cons_of_ne_nil (Text.splitBy_ne_nil _ _), ih]
        rfl
      · rw [hsplit] at ih
        have hne : (c == '/') = false := by simpa using hc
        simp only [Text.splitBy, hne, Bool.false_eq_true, if_false, hsplit]
        rw [← ih]
        cases more <;> simp

/-- A path ends in a slash only if its last piece is empty. -/
theorem getLast?_ne_slash {path : Path} {front : List Text} {last : Text}
    (hpieces : pieces path = front ++ [last]) (hlast : last ≠ []) : path.getLast? ≠ some '/' := by
  intro hslash
  obtain ⟨before, rfl⟩ := List.getLast?_eq_some_iff.1 hslash
  rw [pieces_append] at hpieces
  have hsingle : [[]] = [last] := (List.append_inj' hpieces rfl).2
  exact hlast (List.singleton_inj.1 hsingle).symm

/-- The last piece of a path is empty only if the path is, or ends in a slash. -/
theorem last_ne_nil {path : Path} {front : List Text} {last : Text}
    (hpieces : pieces path = front ++ [last]) (hpath : path ≠ []) (hslash : path.getLast? ≠ some '/') :
    last ≠ [] := by
  rintro rfl
  have hjoin := join_pieces path
  rw [hpieces] at hjoin
  rcases eq_or_ne front [] with rfl | hfront
  · exact hpath hjoin.symm
  · rw [Text.join_append_join _ hfront (List.cons_ne_nil _ _)] at hjoin
    apply hslash
    rw [← hjoin]
    simp [Text.join]

/-! ### Order -/

def Component.rank : Component → Nat
  | root => 0
  | current => 1
  | up => 2
  | name _ => 3

def Component.text : Component → Text
  | name n => n
  | _ => []

/-- Components are compared by their kind first and then as names. -/
theorem compare_eq_compareLex :
    compare = compareLex (compareOn Component.rank) (compareOn Component.text) := by
  funext a b
  cases a with
  | name n =>
      cases b with
      | name n' =>
          show (compare n n').then .eq = compare n n'
          cases compare n n' <;> rfl
      | _ => rfl
  | _ => cases b <;> rfl

instance : Std.TransOrd Component := by
  show Std.TransCmp compare
  rw [compare_eq_compareLex]
  infer_instance

theorem Component.eq_of_rank_text {a b : Component} (hrank : a.rank = b.rank)
    (htext : a.text = b.text) : a = b := by
  cases a <;> cases b <;> simp_all [rank, text]

instance : Std.LawfulEqOrd Component where
  eq_of_compare {a b} h := by
    rw [compare_eq_compareLex] at h
    have hparts : compare a.rank b.rank = .eq ∧ compare a.text b.text = .eq :=
      Ordering.then_eq_eq.1 h
    exact Component.eq_of_rank_text (Std.LawfulEqOrd.eq_of_compare hparts.1)
      (Std.LawfulEqOrd.eq_of_compare hparts.2)

theorem le_trans {a b c : Path} (hab : Path.le a b = true) (hbc : Path.le b c = true) :
    Path.le a c = true :=
  Std.TransCmp.isLE_trans hab hbc

theorem le_total (a b : Path) : (Path.le a b || Path.le b a) = true := by
  unfold Path.le
  rw [@Std.OrientedCmp.eq_swap _ compare _ b.components a.components, Ordering.isLE_swap]
  cases compare a.components b.components <;> rfl

/-- Paths that come before each other have the same components, if not the same text. -/
theorem components_eq_of_le {a b : Path} (hab : Path.le a b = true) (hba : Path.le b a = true) :
    a.components = b.components := by
  apply Std.LawfulEqOrd.eq_of_compare
  unfold Path.le at hab hba
  rw [@Std.OrientedCmp.eq_swap _ compare _ b.components a.components, Ordering.isLE_swap] at hba
  cases hcompare : compare a.components b.components <;> simp_all

/-! ### Names of files -/

/-- A name that a file or directory can have. -/
def IsFileName (name : Text) : Prop := name ∉ [[], ['.'], ['.', '.']] ∧ '/' ∉ name

instance (name : Text) : Decidable (IsFileName name) :=
  inferInstanceAs (Decidable (_ ∧ _))

/-! ### Components of longer paths -/

theorem isAbsolute_append {base : Path} (h : base ≠ []) (more : Text) :
    isAbsolute (base ++ more) = isAbsolute base := by
  obtain ⟨c, rest, rfl⟩ := List.exists_cons_of_ne_nil h
  by_cases hc : c = '/'
  · subst hc
    rfl
  · simp [isAbsolute, hc]

theorem splitStart_append_splitStart (path : Path) :
    (splitStart path).1 ++ (splitStart path).2 = path := by
  unfold splitStart
  split
  · exact List.take_append_drop 1 path
  · rfl

/-- What stands behind a slash does not change how the path starts. -/
theorem splitStart_append {base : Path} (h : base ≠ []) (more : Text) :
    splitStart (base ++ '/' :: more) =
      ((splitStart base).1, (splitStart base).2 ++ '/' :: more) := by
  have habsolute := isAbsolute_append h ('/' :: more)
  obtain ⟨c, rest, rfl⟩ := List.exists_cons_of_ne_nil h
  -- A point alone starts here, and so does a point with a slash behind it.
  have hhere : startsHere (c :: rest ++ '/' :: more) = startsHere (c :: rest) := by
    by_cases hc : c = '.'
    · subst hc
      cases rest with
      | nil => rfl
      | cons d rest =>
          by_cases hd : d = '/'
          · subst hd
            rfl
          · simp [startsHere, hd]
    · simp [startsHere, hc]
  unfold splitStart
  rw [habsolute, hhere]
  split <;> rfl

/-- What the pieces of a text mean. -/
def meaning (text : Text) : List Component :=
  ((pieces text).filter (!isIdle ·)).map Component.ofPiece

/-- Behind a slash the components go on as if nothing were before it. -/
theorem components_append {base : Path} (h : base ≠ []) (more : Text) :
    components (base ++ '/' :: more) = base.components ++ meaning more := by
  unfold components
  rw [splitStart_append h]
  simp [meaning, pieces, Text.splitBy_append_cons]

/-- Joining puts a slash between the paths, unless there is one already or the first path is empty. -/
theorem join_cases {path : Path} (h : isAbsolute path = false) (base : Path) :
    base = [] ∧ join base path = path ∨
      base ≠ [] ∧ ∃ front, (base = front ∨ base = front ++ ['/']) ∧
        join base path = front ++ '/' :: path := by
  unfold join
  rw [h, if_neg (by decide)]
  rcases eq_or_ne base [] with rfl | hbase
  · exact .inl ⟨rfl, rfl⟩
  refine .inr ⟨hbase, ?_⟩
  by_cases hlast : base.getLast? = some '/'
  · obtain ⟨front, rfl⟩ := List.getLast?_eq_some_iff.1 hlast
    exact ⟨front, .inr rfl, by simp⟩
  · exact ⟨base, .inl rfl, by simp [hbase, hlast]⟩

theorem isAbsolute_join {path : Path} (h : isAbsolute path = false) (base : Path) :
    isAbsolute (join base path) = isAbsolute base := by
  rcases join_cases h base with ⟨rfl, hjoin⟩ | ⟨hbase, front, rfl | rfl, hjoin⟩
  · rw [hjoin, h]
    rfl
  · rw [hjoin, isAbsolute_append hbase]
  · rw [hjoin, ← List.singleton_append, ← List.append_assoc, isAbsolute_append hbase]

/-- The components of a longer path, however the first part of it is written. -/
theorem components_join {path : Path} (h : isAbsolute path = false)
    (hhere : startsHere path = false) (base : Path) :
    components (join base path) = base.components ++ meaning path := by
  rcases join_cases h base with ⟨rfl, hjoin⟩ | ⟨hbase, front, rfl | rfl, hjoin⟩
  · rw [hjoin]
    unfold components
    rw [splitStart, h, hhere]
    rfl
  · rw [hjoin, components_append hbase]
  · -- The slash at the end divides nothing, so it can be taken for the one between the paths.
    rw [hjoin]
    rcases eq_or_ne front [] with rfl | hfront
    · rfl
    · rw [components_append hfront, components_append hfront]
      simp [meaning, pieces, Text.splitBy, isIdle]

namespace IsFileName

variable {name : Text} (h : IsFileName name)
include h

theorem not_isAbsolute : isAbsolute name = false := by
  unfold isAbsolute
  split
  · exact absurd List.mem_cons_self h.2
  · rfl

theorem not_startsHere : startsHere name = false := by
  unfold startsHere
  split
  · exact absurd h.1 (by decide)
  · exact absurd (List.mem_cons_of_mem _ List.mem_cons_self) h.2
  · rfl

theorem meaning_eq : meaning name = [.name name] := by
  have hpieces : pieces name = [name] := pieces_of_slash_not_mem h.2
  have hname := h.1
  simp only [List.mem_cons, List.not_mem_nil, or_false, not_or] at hname
  simp [meaning, hpieces, isIdle, Component.ofPiece, hname]

/-- A file stands one name below its directory, however the directory is written. -/
theorem components_join (base : Path) :
    components (join base name) = base.components ++ [.name name] := by
  rw [Path.components_join h.not_isAbsolute h.not_startsHere, h.meaning_eq]

end IsFileName

end Path

end CobolSubset
