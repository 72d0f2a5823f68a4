import Mathlib
import CobolSubset.Token.Rule

/-!
# How patterns run

`Pattern.run` hands what follows a pattern in as a continuation and tries the ways through the
pattern in order. The rules of the language only use a few shapes of patterns, and for these the
order of trials collapses to a plain condition on the text ahead:

* a literal needs the text to start with it (`run_literal`);
* a choice is the first of its alternatives that leads anywhere (`run_choice`);
* a greedy repetition of a set takes the longest run of its characters, *provided* giving some of
  them back never helps what follows (`furtherRounds_set`). That proviso is what each rule has to
  discharge, and where a rule looks at the character behind its token it is discharged the same way:
  a shorter run is followed by one more character of the set.

A word rule is settled here once for every list of words (`Rule.matchStart?_words`).
-/

namespace CobolSubset

/-! ### Runs of characters -/

namespace Text

/-- Whether the text is at its end or starts with a character outside `p`. -/
def stops (p : Char → Bool) (text : Text) : Bool := text.head?.all fun c => !p c

variable {p : Char → Bool}

@[simp] theorem stops_nil : stops p [] = true := rfl

@[simp] theorem stops_cons (c : Char) (rest : Text) : stops p (c :: rest) = !p c := rfl

theorem stops_of_head? {text : Text} (h : ∀ c ∈ text.head?, p c = false) :
    stops p text = true := by
  cases text with
  | nil => rfl
  | cons c rest => simp [h c rfl]

/-- What is left behind the longest run does not go on with it. -/
theorem stops_dropWhile (text : Text) : stops p (text.dropWhile p) = true := by
  induction text with
  | nil => rfl
  | cons c text ih =>
      rw [List.dropWhile_cons]
      split
      · exact ih
      · next hc => simpa using hc

/-- Where a larger class ends a smaller one ends too. -/
theorem stops_of_imp {q : Char → Bool} (himp : ∀ c, p c = true → q c = true) {text : Text}
    (h : stops q text = true) : stops p text = true := by
  cases text with
  | nil => rfl
  | cons c rest =>
      have hq : q c = false := by simpa using h
      cases hp : p c with
      | false => simp [hp]
      | true => rw [himp c hp] at hq; cases hq

/-- A run that does not go on behind its end is the longest one. -/
theorem takeWhile_append_of_stops {run behind : Text} (hrun : ∀ c ∈ run, p c = true)
    (hbehind : stops p behind = true) : (run ++ behind).takeWhile p = run := by
  rw [List.takeWhile_append_of_pos hrun]
  cases behind with
  | nil => simp
  | cons c rest =>
      have hc : p c = false := by simpa using hbehind
      simp [hc]

theorem dropWhile_append_of_stops {run behind : Text} (hrun : ∀ c ∈ run, p c = true)
    (hbehind : stops p behind = true) : (run ++ behind).dropWhile p = behind := by
  rw [List.dropWhile_append_of_pos hrun]
  cases behind with
  | nil => rfl
  | cons c rest =>
      have hc : p c = false := by simpa using hbehind
      simp [hc]

theorem drop_length_takeWhile (text : Text) :
    text.drop (text.takeWhile p).length = text.dropWhile p := by
  have hsplit : text.takeWhile p ++ text.dropWhile p = text := List.takeWhile_append_dropWhile
  have hdrop := congrArg (List.drop (text.takeWhile p).length) hsplit
  rw [List.drop_left] at hdrop
  exact hdrop.symm

/-- A run of `p` that stops before `q` is the run of `q`. -/
theorem stops_dropWhile_of_imp {q : Char → Bool} (himp : ∀ c, p c = true → q c = true)
    (text : Text) : stops q (text.dropWhile p) = (text.takeWhile q).all p := by
  induction text with
  | nil => rfl
  | cons c text ih =>
      cases hp : p c with
      | true => simp [hp, himp c hp, ih]
      | false => cases hq : q c <;> simp [hp, hq]

/-- If the longest run of a larger class lies in the smaller one, then it is the longest run of
both. -/
theorem takeWhile_eq_of_all {q : Char → Bool} (himp : ∀ c, p c = true → q c = true) {text : Text}
    (hall : (text.takeWhile q).all p = true) : text.takeWhile p = text.takeWhile q := by
  induction text with
  | nil => rfl
  | cons c text ih =>
      cases hp : p c with
      | true =>
          simp only [List.takeWhile_cons, hp, himp c hp, if_true] at hall ⊢
          rw [ih (by simpa [hp] using hall)]
      | false =>
          cases hq : q c with
          | true => simp [hp, hq] at hall
          | false => simp [hp, hq]

/-- A character that occurs is found by passing all others. -/
theorem dropWhile_ne_of_mem {text : Text} {d : Char} (h : d ∈ text) :
    ∃ behind, text.dropWhile (· != d) = d :: behind := by
  induction text with
  | nil => cases h
  | cons c text ih =>
      by_cases hc : c = d
      · exact ⟨text, by simp [hc]⟩
      · obtain ⟨behind, hbehind⟩ := ih ((List.mem_cons.1 h).resolve_left (Ne.symm hc))
        exact ⟨behind, by simpa [hc] using hbehind⟩

theorem dropWhile_ne_of_not_mem {text : Text} {d : Char} (h : d ∉ text) :
    text.dropWhile (· != d) = [] := by
  have hall : ∀ c ∈ text, (c != d) = true := fun c hc => bne_iff_ne.2 fun heq => h (heq ▸ hc)
  simpa using dropWhile_append_of_stops hall stops_nil

theorem of_mem_takeWhile {text : Text} {c : Char} (h : c ∈ text.takeWhile p) : p c = true :=
  List.all_eq_true.1 List.all_takeWhile c h

end Text

/-! ### Places behind a piece of text -/

namespace Cursor

/-- The place behind `taken`, when `behind` is the text from there on. -/
def pass (cursor : Cursor) (taken behind : Text) : Cursor :=
  ⟨taken.getLast?.or cursor.previous, behind, cursor.offset + taken.length, cursor.token⟩

@[simp] theorem start_rest (text : Text) : (start text).rest = text := rfl

@[simp] theorem pass_previous (cursor : Cursor) (taken behind : Text) :
    (cursor.pass taken behind).previous = taken.getLast?.or cursor.previous := rfl

@[simp] theorem pass_rest (cursor : Cursor) (taken behind : Text) :
    (cursor.pass taken behind).rest = behind := rfl

@[simp] theorem pass_offset (cursor : Cursor) (taken behind : Text) :
    (cursor.pass taken behind).offset = cursor.offset + taken.length := rfl

@[simp] theorem pass_token (cursor : Cursor) (taken behind : Text) :
    (cursor.pass taken behind).token = cursor.token := rfl

theorem pass_nil (cursor : Cursor) : cursor.pass [] cursor.rest = cursor := rfl

/-- To pass two texts in turn is to pass them together. -/
theorem pass_pass (cursor : Cursor) (first second rest behind : Text) :
    (cursor.pass first rest).pass second behind = cursor.pass (first ++ second) behind := by
  unfold pass
  rw [List.getLast?_append, Option.or_assoc, List.length_append, Nat.add_assoc]

/-- A single step is the passing of one character, so that all moves of a cursor can be stated with
`pass`. -/
theorem advance_eq_pass (cursor : Cursor) (c : Char) (rest : Text) :
    cursor.advance c rest = cursor.pass [c] rest := rfl

theorem pass_advance (cursor : Cursor) (c : Char) (rest taken behind : Text) :
    (cursor.advance c rest).pass taken behind = cursor.pass (c :: taken) behind := by
  rw [advance_eq_pass, pass_pass]
  rfl

end Cursor

namespace Pattern

variable {α : Type}

/-! ### Single characters and literals -/

/-- A set looks at the next character and at nothing else. -/
theorem run_set_cons {s : CharSet} {next : Cursor → Option α} {cursor : Cursor} {c : Char}
    {rest : Text} (hrest : cursor.rest = c :: rest) :
    (set s).run next cursor = if s.contains c then next (cursor.advance c rest) else none := by
  rw [run, hrest]

/-- A set does not match where its run has ended. -/
theorem run_set_eq_none {s : CharSet} {next : Cursor → Option α} {cursor : Cursor}
    (h : Text.stops s.contains cursor.rest = true) : (set s).run next cursor = none := by
  cases hrest : cursor.rest with
  | nil => rw [run, hrest]
  | cons c rest =>
      have hc : s.contains c = false := by simpa [hrest] using h
      rw [run_set_cons hrest, hc]
      rfl

theorem run_char_self {d : Char} {next : Cursor → Option α} {cursor : Cursor} {rest : Text}
    (hrest : cursor.rest = d :: rest) :
    (char d).run next cursor = next (cursor.advance d rest) := by
  rw [char, run_set_cons hrest]
  simp [CharSet.contains]

theorem run_char_eq_none {d : Char} {next : Cursor → Option α} {cursor : Cursor}
    (h : cursor.rest.head? ≠ some d) : (char d).run next cursor = none := by
  refine run_set_eq_none ?_
  cases hrest : cursor.rest with
  | nil => rfl
  | cons c rest =>
      have hc : c ≠ d := by simpa [hrest] using h
      simpa [CharSet.contains] using hc

theorem run_concat_cons (a : Pattern) (as : List Pattern) (next : Cursor → Option α)
    (cursor : Cursor) :
    (concat (a :: as)).run next cursor = a.run ((concat as).run next) cursor := by
  cases as <;> rfl

/-- A literal matches where the text starts with it, and it passes just that much. -/
theorem run_literal (word : Text) (next : Cursor → Option α) (cursor : Cursor) :
    (literal word).run next cursor =
      if word.isPrefixOf cursor.rest then next (cursor.pass word (cursor.rest.drop word.length))
      else none := by
  induction word generalizing cursor with
  | nil => rfl
  | cons c word ih =>
      rw [literal, List.map_cons, run_concat_cons]
      show (char c).run ((literal word).run next) cursor = _
      cases hrest : cursor.rest with
      | nil => rw [char, run, hrest]; rfl
      | cons d rest =>
          rw [char, run_set_cons hrest, ih, Cursor.pass_advance]
          by_cases hd : d = c
          · subst hd
            simp [CharSet.contains, Cursor.advance]
          · simp [CharSet.contains, hd, Ne.symm hd]

/-! ### Choice -/

/-- A choice is the first of its patterns with which the rest of the pattern can go on, too. -/
theorem run_choice {patterns : List Pattern} (hne : patterns ≠ []) (next : Cursor → Option α)
    (cursor : Cursor) :
    (choice patterns).run next cursor = patterns.findSome? fun a => a.run next cursor := by
  induction patterns with
  | nil => exact absurd rfl hne
  | cons a as ih =>
      cases as with
      | nil => simp [choice]
      | cons b bs =>
          rw [List.findSome?_cons, ← ih (List.cons_ne_nil b bs)]
          show (a.run next cursor <|> (choice (b :: bs)).run next cursor) = _
          cases a.run next cursor <;> rfl

/-- Trying in order is trying the first that can succeed. -/
theorem findSome?_eq_bind_find? {β : Type} {list : List β} {good : β → Bool} {f : β → Option α}
    (hbad : ∀ b ∈ list, good b = false → f b = none)
    (hgood : ∀ b ∈ list, good b = true → (f b).isSome = true) :
    list.findSome? f = (list.find? good).bind f := by
  induction list with
  | nil => rfl
  | cons b list ih =>
      have htail := ih (fun d hd => hbad d (List.mem_cons_of_mem b hd))
        (fun d hd => hgood d (List.mem_cons_of_mem b hd))
      cases hb : good b with
      | false =>
          rw [List.findSome?_cons, hbad b List.mem_cons_self hb, List.find?_cons, hb]
          exact htail
      | true =>
          obtain ⟨a, ha⟩ := Option.isSome_iff_exists.1 (hgood b List.mem_cons_self hb)
          rw [List.findSome?_cons, ha, List.find?_cons, hb]
          exact ha.symm

/-- A choice of literals tries them in order. -/
theorem run_choice_literals {list : List Text} (hne : list ≠ []) (next : Cursor → Option α)
    (cursor : Cursor) :
    (choice (list.map literal)).run next cursor =
      list.findSome? fun word => (literal word).run next cursor := by
  rw [run_choice (by simpa using hne), List.findSome?_map]
  rfl

/-! ### Greedy repetition of a set -/

/-- One further round of a set: a character of the set is taken if that leads anywhere. -/
theorem furtherRounds_set_cons {s : CharSet} {next : Cursor → Option α} {cursor : Cursor} {c : Char}
    {rest : Text} (hrest : cursor.rest = c :: rest) (hc : s.contains c = true) :
    furtherRounds true (fun k c => (set s).run k c) next cursor =
      (furtherRounds true (fun k c => (set s).run k c) next (cursor.advance c rest) <|>
        next cursor) := by
  have hshorter : (cursor.advance c rest).rest.length < cursor.rest.length := by
    rw [hrest]
    exact Nat.lt_succ_self _
  rw [furtherRounds]
  simp only [run_set_cons hrest, hc, if_true, dif_pos hshorter]

theorem furtherRounds_set_stop {s : CharSet} {next : Cursor → Option α} {cursor : Cursor}
    (h : Text.stops s.contains cursor.rest = true) :
    furtherRounds true (fun k c => (set s).run k c) next cursor = next cursor := by
  rw [furtherRounds]
  simp only [run_set_eq_none h, if_true]
  rfl

/-- Greedy rounds over a set take the longest run, if what follows cannot go on behind a shorter one
where it cannot go on behind that. -/
theorem furtherRounds_set {s : CharSet} {next : Cursor → Option α} {cursor : Cursor}
    {taken behind : Text} (hrest : cursor.rest = taken ++ behind)
    (htaken : ∀ c ∈ taken, s.contains c = true)
    (hbehind : Text.stops s.contains behind = true)
    (hback : next (cursor.pass taken behind) = none →
      ∀ before c after, taken = before ++ c :: after →
        next (cursor.pass before (c :: (after ++ behind))) = none) :
    furtherRounds true (fun k c => (set s).run k c) next cursor =
      next (cursor.pass taken behind) := by
  induction taken generalizing cursor with
  | nil =>
      have hpass : cursor.pass [] behind = cursor := by
        rw [← show cursor.rest = behind from hrest, Cursor.pass_nil]
      rw [hpass]
      exact furtherRounds_set_stop (by rw [hrest]; exact hbehind)
  | cons c taken ih =>
      rw [furtherRounds_set_cons hrest (htaken c List.mem_cons_self),
        ih rfl (fun d hd => htaken d (List.mem_cons_of_mem c hd)), Cursor.pass_advance]
      · -- if the longest run leads nowhere, then neither does stopping before `c`
        cases hlongest : next (cursor.pass (c :: taken) behind) with
        | some found => rfl
        | none =>
            have hnone := hback hlongest [] c taken rfl
            rw [← List.cons_append, ← hrest, Cursor.pass_nil] at hnone
            rw [hnone]
            rfl
      · intro hlongest before d after hsplit
        rw [Cursor.pass_advance] at hlongest ⊢
        exact hback hlongest (c :: before) d after (by rw [hsplit]; rfl)

/-- **The longest run decides**, if what follows fails behind every shorter run whenever it fails
behind the longest one. -/
theorem furtherRounds_set_longest {s : CharSet} {next : Cursor → Option α} (cursor : Cursor)
    (hback : next (cursor.pass (cursor.rest.takeWhile s.contains)
        (cursor.rest.dropWhile s.contains)) = none →
      ∀ before c after, cursor.rest.takeWhile s.contains = before ++ c :: after →
        next (cursor.pass before (c :: (after ++ cursor.rest.dropWhile s.contains))) = none) :
    furtherRounds true (fun k c => (set s).run k c) next cursor =
      next (cursor.pass (cursor.rest.takeWhile s.contains)
        (cursor.rest.dropWhile s.contains)) :=
  furtherRounds_set List.takeWhile_append_dropWhile.symm (fun _ hc => Text.of_mem_takeWhile hc)
    (Text.stops_dropWhile cursor.rest) hback

/-- One or more rounds are a first one, then any number of further ones. -/
theorem run_plus_set {s : CharSet} {next : Cursor → Option α} {cursor : Cursor} {c : Char}
    {rest : Text} (hrest : cursor.rest = c :: rest) (hc : s.contains c = true) :
    (plus true (set s)).run next cursor =
      furtherRounds true (fun k c => (set s).run k c) next (cursor.advance c rest) := by
  have hshorter : (cursor.advance c rest).rest.length < cursor.rest.length := by
    rw [hrest]
    exact Nat.lt_succ_self _
  rw [run, rounds]
  simp only [run_set_cons hrest, hc, if_true, if_pos hshorter]

theorem run_plus_set_eq_none {s : CharSet} {next : Cursor → Option α} {cursor : Cursor}
    (h : Text.stops s.contains cursor.rest = true) :
    (plus true (set s)).run next cursor = none := by
  rw [run, rounds]
  exact run_set_eq_none h

/-- The first round of a starred set takes something or fails, so the case of an empty round never
comes up. -/
theorem run_star_set (s : CharSet) (next : Cursor → Option α) (cursor : Cursor) :
    (star true (set s)).run next cursor =
      furtherRounds true (fun k c => (set s).run k c) next cursor := by
  have hstar : (star true (set s)).run next cursor =
      ((plus true (set s)).run next cursor <|> next cursor) := rfl
  rw [hstar]
  cases h : Text.stops s.contains cursor.rest with
  | true =>
      rw [run_plus_set_eq_none h, furtherRounds_set_stop h]
      rfl
  | false =>
      cases hrest : cursor.rest with
      | nil => rw [hrest] at h; cases h
      | cons c rest =>
          have hc : s.contains c = true := by simpa [hrest] using h
          rw [run_plus_set hrest hc, furtherRounds_set_cons hrest hc]

/-! ### The token that was found -/

/-- A match without a mark is the token, if it is not empty. -/
theorem matchPrefix?_of_unmarked {pattern : Pattern} {text taken behind : Text}
    (htext : text = taken ++ behind)
    (hrun : pattern.run some (Cursor.start text) = some ((Cursor.start text).pass taken behind))
    (hne : taken ≠ []) : pattern.matchPrefix? text = some taken := by
  have hpos : 0 < taken.length := List.length_pos_iff.2 hne
  rw [matchPrefix?, hrun]
  simp [Cursor.start, hpos, htext]

/-- A mark from the start on is the token, if it is not empty. -/
theorem matchPrefix?_of_marked {pattern : Pattern} {text : Text} {stop : Cursor} {last : Nat}
    (hrun : pattern.run some (Cursor.start text) = some stop)
    (htoken : stop.token = some (0, last)) :
    pattern.matchPrefix? text = if 0 < last then some (text.take last) else none := by
  rw [matchPrefix?, hrun]
  simp [htoken]

theorem matchPrefix?_eq_none {pattern : Pattern} {text : Text}
    (hrun : pattern.run some (Cursor.start text) = none) : pattern.matchPrefix? text = none := by
  rw [matchPrefix?, hrun]

end Pattern

namespace Rule

open Pattern

/-! ### Word rules -/

/-- What follows the token of a word rule: the mark is set, and then the word has to end. -/
def closeWord (cursor : Cursor) : Option Cursor := wordEnd.run some (cursor.markFrom 0)

/-- A word that goes on is not closed, whatever was taken of it. -/
theorem closeWord_eq_none (cursor : Cursor) (h : Text.stops wordPart.contains cursor.rest = false) :
    closeWord cursor = none := by
  cases hrest : cursor.rest with
  | nil => rw [hrest] at h; cases h
  | cons c rest =>
      have hpart : wordPart.contains c = true := by simpa [hrest] using h
      have hmark : (cursor.markFrom 0).rest = c :: rest := hrest
      simp [closeWord, wordEnd, run, Anchor.holds, CharSet.contains, hmark, hpart]

/-- Where no word character follows, the word is closed and marked up to here. -/
theorem closeWord_eq_some (cursor : Cursor) (h : Text.stops wordPart.contains cursor.rest = true) :
    ∃ stop, closeWord cursor = some stop ∧ stop.token = some (0, cursor.offset) := by
  cases hrest : cursor.rest with
  | nil =>
      have hmark : (cursor.markFrom 0).rest = [] := hrest
      refine ⟨cursor.markFrom 0, ?_, rfl⟩
      simp [closeWord, wordEnd, run, Anchor.holds, hmark]
  | cons c rest =>
      have hpart : wordPart.contains c = false := by simpa [hrest] using h
      have hmark : (cursor.markFrom 0).rest = c :: rest := hrest
      refine ⟨(cursor.markFrom 0).advance c rest, ?_, rfl⟩
      simp [closeWord, wordEnd, run, CharSet.contains, hmark, hpart]

/-- A rule that gets as far as the end of its mark finds what was marked, if a word may end
there. -/
theorem matchStart?_of_closeWord {rule : Rule} {taken behind : Text}
    (hrun : rule.pattern.run some (Cursor.start (taken ++ behind)) =
      closeWord ((Cursor.start (taken ++ behind)).pass taken behind)) :
    rule.matchStart? (taken ++ behind) =
      if Text.stops wordPart.contains behind ∧ taken ≠ [] then some taken else none := by
  cases hends : Text.stops wordPart.contains behind with
  | false =>
      rw [closeWord_eq_none _ hends] at hrun
      rw [matchStart?, matchPrefix?_eq_none hrun]
      simp
  | true =>
      obtain ⟨stop, hstop, htoken⟩ :=
        closeWord_eq_some ((Cursor.start (taken ++ behind)).pass taken behind) hends
      rw [matchStart?, matchPrefix?_of_marked (hrun.trans hstop) htoken]
      simp [Cursor.start, List.length_pos_iff]

/-- Whether the text starts with the word and the word may end there. -/
def fits (text word : Text) : Bool :=
  word.isPrefixOf text && Text.stops wordPart.contains (text.drop word.length)

theorem take_of_fits {text word : Text} (h : fits text word = true) :
    text.take word.length = word := by
  have hstarts : word.isPrefixOf text = true := (Bool.and_eq_true_iff.1 h).1
  exact (List.prefix_iff_eq_take.1 (List.isPrefixOf_iff_prefix.1 hstarts)).symm

/-- The rule for a word takes nothing where the word does not fit, be it as the beginning of a
longer one. -/
theorem run_literal_eq_none {text word : Text} (h : fits text word = false) :
    (literal word).run closeWord (Cursor.start text) = none := by
  rw [run_literal]
  split
  · next hstarts =>
    rw [fits, show word.isPrefixOf text = true from hstarts, Bool.true_and] at h
    exact closeWord_eq_none _ h
  · rfl

/-- A word that fits is taken, with the mark around just the word. -/
theorem run_literal_eq_some {text word : Text} (h : fits text word = true) :
    ∃ stop, (literal word).run closeWord (Cursor.start text) = some stop ∧
      stop.token = some (0, word.length) := by
  obtain ⟨hstarts, hends⟩ := Bool.and_eq_true_iff.1 h
  obtain ⟨stop, hstop, htoken⟩ := closeWord_eq_some
    ((Cursor.start text).pass word (text.drop word.length)) hends
  refine ⟨stop, ?_, by simpa [Cursor.start] using htoken⟩
  rw [run_literal, if_pos (show word.isPrefixOf (Cursor.start text).rest = true from hstarts)]
  exact hstop

/-- **A word rule takes the first word that fits**, and nothing if that word is empty. -/
theorem matchStart?_words (category : Category) (list : List Text) (text : Text) :
    (words category list).matchStart? text =
      (list.find? (fits text)).filter fun word => !word.isEmpty := by
  by_cases hne : list = []
  · subst hne
    -- no word at all is the empty pattern, which marks nothing but an empty token
    have hrun : (words category []).pattern.run some (Cursor.start ([] ++ text)) =
        closeWord ((Cursor.start ([] ++ text)).pass [] text) := rfl
    simpa using matchStart?_of_closeWord hrun
  have hrun : (words category list).pattern.run some (Cursor.start text) =
      (list.find? (fits text)).bind fun word =>
        (literal word).run closeWord (Cursor.start text) := by
    show (choice (list.map literal)).run closeWord (Cursor.start text) = _
    rw [run_choice_literals hne]
    refine findSome?_eq_bind_find? ?_ ?_
    · intro word _ hword
      exact run_literal_eq_none hword
    · intro word _ hword
      obtain ⟨stop, hstop, -⟩ := run_literal_eq_some hword
      rw [hstop]
      rfl
  cases hfind : list.find? (fits text) with
  | none =>
      rw [hfind] at hrun
      exact matchPrefix?_eq_none hrun
  | some word =>
      obtain ⟨stop, hstop, htoken⟩ := run_literal_eq_some (List.find?_some hfind)
      rw [hfind, Option.bind_some, hstop] at hrun
      rw [matchStart?, matchPrefix?_of_marked hrun htoken, take_of_fits (List.find?_some hfind)]
      simp [Option.filter, List.length_pos_iff]

end Rule

end CobolSubset
