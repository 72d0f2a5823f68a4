import CobolSubset.Proofs.Matching
import CobolSubset.Token.Scan

/-!
# Cutting a source loses nothing

The forward map `RuleSet.tokenize` is characterized by a relation, `Cut`, that reads a source as
blanks and tokens in turn:

    tokenize_eq_ok_iff    : rules.tokenize source = .ok tokens ↔ Cut rules source tokens []
    tokenize_eq_error_iff : rules.tokenize source = .error e ↔
                              Stuck rules e.remaining ∧
                                ∃ tokens, Cut rules source tokens e.remaining

Both come from two facts that hold for every list of rules: a cut may be taken first and the rest
cut later (`Cut.tokenize`), and every source can be cut up to its end or to a place where no rule
fits (`exists_cut`).

A rule is any pattern at all. Some have no mark for the token, some mark a part that starts late,
and some match only further on in the text. `Pattern.find?` is the leftmost match with all of that;
`matchPrefix?_eq_find?` says that looking only at the start of the text misses no token.
-/

namespace CobolSubset

/-! ### The leftmost match -/

namespace Cursor

/-- The cursor, and what is marked on the way to it, are not before the offset `first`. -/
def NotBefore (first : Nat) (cursor : Cursor) : Prop :=
  first ≤ cursor.offset ∧ ∀ span ∈ cursor.token, first ≤ span.1

theorem NotBefore.advance {first : Nat} {cursor : Cursor} (h : cursor.NotBefore first) (c : Char)
    (rest : Text) : (cursor.advance c rest).NotBefore first :=
  ⟨Nat.le_succ_of_le h.1, h.2⟩

/-- A mark that is set from a place behind `first` on lies behind it as a whole. -/
theorem NotBefore.markFrom {first : Nat} {cursor after : Cursor} (h : cursor.NotBefore first)
    (hafter : after.NotBefore first) : (after.markFrom cursor.offset).NotBefore first := by
  refine ⟨hafter.1, ?_⟩
  intro span hspan
  cases hspan
  exact h.1

end Cursor

namespace Pattern

/-- What starts at or behind `first` ends there, with its marks. -/
def KeepsBehind (first : Nat) (next : Cursor → Option Cursor) : Prop :=
  ∀ cursor stop, cursor.NotBefore first → next cursor = some stop → stop.NotBefore first

variable {first : Nat} {next : Cursor → Option Cursor}

/-- To stop is to keep everything where it is. -/
theorem keepsBehind_some : KeepsBehind first some := by
  intro cursor stop hcursor hstop
  cases hstop
  exact hcursor

/-- Of two ways that keep behind `first` either may be tried. -/
theorem KeepsBehind.orElse {other : Cursor → Option Cursor} (hnext : KeepsBehind first next)
    (hother : KeepsBehind first other) :
    KeepsBehind first fun cursor => next cursor <|> other cursor := by
  intro cursor stop hcursor hstop
  dsimp only at hstop
  cases hfirst : next cursor with
  | some found =>
      rw [hfirst] at hstop
      exact hnext cursor stop hcursor (hfirst.trans hstop)
  | none =>
      rw [hfirst] at hstop
      exact hother cursor stop hcursor hstop

/-- Rounds keep behind `first` if a round does before everything that does. The induction is on the
text that is left. -/
theorem KeepsBehind.furtherRounds {round : (Cursor → Option Cursor) → Cursor → Option Cursor}
    (hround : ∀ k, KeepsBehind first k → KeepsBehind first (round k))
    (hnext : KeepsBehind first next) (greedy : Bool) :
    KeepsBehind first (furtherRounds greedy round next) := by
  intro cursor
  -- Every further round takes something, so what is left of the text gets shorter.
  induction hlength : cursor.rest.length using Nat.strongRecOn generalizing cursor with
  | ind n ih =>
      intro stop hcursor hstop
      have hagain : KeepsBehind first (round fun after =>
          if after.rest.length < cursor.rest.length then
            Pattern.furtherRounds greedy round next after
          else none) := by
        apply hround
        intro after stop hafter hstop
        dsimp only at hstop
        split at hstop
        · next hshorter => exact ih _ (hlength ▸ hshorter) after rfl stop hafter hstop
        · cases hstop
      rw [Pattern.furtherRounds] at hstop
      cases greedy with
      | true => exact hagain.orElse hnext cursor stop hcursor hstop
      | false => exact hnext.orElse hagain cursor stop hcursor hstop

/-- Running a pattern never goes back, and marks nothing before the place where it starts. -/
theorem KeepsBehind.run (pattern : Pattern) (hnext : KeepsBehind first next) :
    KeepsBehind first (pattern.run next) := by
  induction pattern generalizing next with
  | empty => exact hnext
  | set s =>
      intro cursor stop hcursor hstop
      unfold Pattern.run at hstop
      split at hstop
      · cases hstop
      · next c rest _ =>
        split at hstop
        · exact hnext _ stop (hcursor.advance c rest) hstop
        · cases hstop
  | anchor a =>
      intro cursor stop hcursor hstop
      unfold Pattern.run at hstop
      split at hstop
      · exact hnext cursor stop hcursor hstop
      · cases hstop
  | seq a b iha ihb => exact iha (ihb hnext)
  | alt a b iha ihb => exact (iha hnext).orElse (ihb hnext)
  | opt greedy a ih =>
      cases greedy with
      | true => exact (ih hnext).orElse hnext
      | false => exact hnext.orElse (ih hnext)
  | plus greedy a ih =>
      intro cursor stop hcursor hstop
      refine ih ?_ cursor stop hcursor hstop
      intro after stop hafter hstop
      dsimp only at hstop
      split at hstop
      · exact furtherRounds (fun k hk => ih hk) hnext greedy after stop hafter hstop
      · exact hnext after stop hafter hstop
  | token a ih =>
      intro cursor stop hcursor hstop
      refine ih ?_ cursor stop hcursor hstop
      intro after stop hafter hstop
      exact hnext _ stop (hcursor.markFrom hafter) hstop

/-- The token of the leftmost match from a place on, as its start and its end. -/
def findFrom (pattern : Pattern) (previous : Option Char) (offset : Nat) (text : Text) :
    Option (Nat × Nat) :=
  match pattern.run some ⟨previous, text, offset, none⟩ with
  | some stop => some (stop.token.getD (offset, stop.offset))
  | none =>
    match text with
    | [] => none
    | c :: rest => findFrom pattern (some c) (offset + 1) rest

/-- The token of the leftmost match in the text, as its start and its end. -/
def find? (pattern : Pattern) (text : Text) : Option (Nat × Nat) := findFrom pattern none 0 text

/-- The token of a match is not before the place where the match starts. -/
theorem le_of_run {pattern : Pattern} {previous : Option Char} {offset : Nat} {text : Text}
    {stop : Cursor} (h : pattern.run some ⟨previous, text, offset, none⟩ = some stop) :
    offset ≤ (stop.token.getD (offset, stop.offset)).1 := by
  obtain ⟨-, htoken⟩ := keepsBehind_some.run pattern _ stop ⟨Nat.le_refl offset, by simp⟩ h
  cases hmark : stop.token with
  | none => exact Nat.le_refl offset
  | some span => exact htoken span hmark

/-- A leftmost match that is looked for from an offset on does not start before it. -/
theorem le_of_findFrom {pattern : Pattern} {previous : Option Char} {offset : Nat} {text : Text}
    {span : Nat × Nat} (h : findFrom pattern previous offset text = some span) :
    offset ≤ span.1 := by
  induction text generalizing previous offset with
  | nil =>
      unfold findFrom at h
      split at h
      · next stop hrun => cases h; exact le_of_run hrun
      · cases h
  | cons c rest ih =>
      unfold findFrom at h
      split at h
      · next stop hrun => cases h; exact le_of_run hrun
      · exact Nat.le_of_succ_le (ih h)

/-- Looking at the start of the text is enough: the leftmost match gives a token there only if it
starts there. -/
theorem matchPrefix?_eq_find? (pattern : Pattern) (text : Text) :
    pattern.matchPrefix? text =
      (pattern.find? text).bind fun span =>
        if span.1 = 0 ∧ 0 < span.2 then some (text.take span.2) else none := by
  unfold matchPrefix? find? findFrom
  rw [Cursor.start]
  cases hrun : pattern.run some ⟨none, text, 0, none⟩ with
  | some stop => rfl
  | none =>
      cases text with
      | nil => rfl
      | cons c rest =>
          cases hfind : findFrom pattern (some c) 1 rest with
          | none => simp [hfind]
          | some span =>
              have hlate : span.1 ≠ 0 := Nat.ne_of_gt (le_of_findFrom hfind)
              simp [hfind, hlate]

end Pattern

/-! ### Blanks and tokens in turn -/

namespace Text

def AllBlank (text : Text) : Prop := ∀ c ∈ text, isBlank c = true

instance (text : Text) : Decidable text.AllBlank :=
  decidable_of_iff (text.all isBlank = true) List.all_eq_true

theorem allBlank_nil : AllBlank [] := fun _ hc => nomatch hc

theorem AllBlank.append {text more : Text} (htext : text.AllBlank) (hmore : more.AllBlank) :
    AllBlank (text ++ more) :=
  fun c hc => (List.mem_append.1 hc).elim (htext c) (hmore c)

/-- Whether there is a first character and it is no blank. -/
def startsSolid (text : Text) : Bool := text.head?.any fun c => !isBlank c

@[simp] theorem startsSolid_nil : startsSolid [] = false := rfl

@[simp] theorem startsSolid_cons (c : Char) (rest : Text) :
    startsSolid (c :: rest) = !isBlank c := rfl

/-- What starts a text decides, whatever stands behind it. -/
theorem startsSolid_append {text : Text} (h : text.startsSolid = true) (more : Text) :
    startsSolid (text ++ more) = true := by
  cases text with
  | nil => cases h
  | cons c rest => exact h

/-- Trimming does not stop inside of blanks. -/
theorem trimStart_append_of_allBlank {blanks : Text} (hblanks : blanks.AllBlank) (rest : Text) :
    (blanks ++ rest).trimStart = rest.trimStart :=
  List.dropWhile_append_of_pos hblanks

theorem trimStart_of_startsSolid {text : Text} (h : text.startsSolid = true) :
    text.trimStart = text := by
  cases text with
  | nil => rfl
  | cons c rest => exact List.dropWhile_cons_of_neg (by simpa using h)

/-- A text is its leading blanks and what stands behind them. -/
theorem exists_blanks (text : Text) :
    ∃ blanks rest, text = blanks ++ rest ∧ AllBlank blanks ∧
      (rest = [] ∨ rest.startsSolid = true) := by
  refine ⟨text.takeWhile isBlank, text.dropWhile isBlank, List.takeWhile_append_dropWhile.symm,
    fun c hc => of_mem_takeWhile hc, ?_⟩
  have hstops : stops isBlank (text.dropWhile isBlank) = true := stops_dropWhile text
  cases hrest : text.dropWhile isBlank with
  | nil => exact .inl rfl
  | cons c rest => exact .inr (by simpa [hrest] using hstops)

end Text

namespace RuleSet

variable {rules : RuleSet}

/-- `Cut rules source tokens rest`: the source is blanks and tokens in turn, up to `rest`. Each
token is what the rules find at its place, with all that follows it in the source in view. -/
inductive Cut (rules : RuleSet) : Text → List Token → Text → Prop
  | stop {blanks : Text} (rest : Text) : blanks.AllBlank → Cut rules (blanks ++ rest) [] rest
  | take {blanks behind rest : Text} {token : Token} {tokens : List Token} :
      blanks.AllBlank → token.text.startsSolid = true →
      rules.matchStart? (token.text ++ behind) = some token →
      Cut rules behind tokens rest →
      Cut rules (blanks ++ (token.text ++ behind)) (token :: tokens) rest

/-- The text starts with no blank, and no rule fits there. -/
def Stuck (rules : RuleSet) (rest : Text) : Prop :=
  rest.startsSolid = true ∧ rules.matchStart? rest = none

namespace Cut

theorem done (rest : Text) : Cut rules rest [] rest := .stop rest Text.allBlank_nil

/-- A token without blanks in front can be cut off. -/
theorem token {token : Token} {behind rest : Text} {tokens : List Token}
    (hsolid : token.text.startsSolid = true)
    (hfound : rules.matchStart? (token.text ++ behind) = some token)
    (hbehind : Cut rules behind tokens rest) :
    Cut rules (token.text ++ behind) (token :: tokens) rest :=
  .take Text.allBlank_nil hsolid hfound hbehind

/-- Cutting can be done in two parts, one up to any place and one from there on. -/
theorem append {source middle rest : Text} {tokens more : List Token}
    (hfirst : Cut rules source tokens middle) (hlast : Cut rules middle more rest) :
    Cut rules source (tokens ++ more) rest := by
  induction hfirst with
  | @stop blanks middle hblanks =>
      cases hlast with
      | @stop further rest hfurther =>
          rw [← List.append_assoc]
          exact .stop rest (hblanks.append hfurther)
      | @take further behind _ token tokens hfurther hsolid hfound hbehind =>
          rw [← List.append_assoc]
          exact .take (hblanks.append hfurther) hsolid hfound hbehind
  | take hblanks hsolid hfound _ ih => exact .take hblanks hsolid hfound (ih hlast)

/-- Blanks in front do not change what is cut off. -/
theorem skip {blanks source rest : Text} {tokens : List Token} (hblanks : blanks.AllBlank)
    (h : Cut rules source tokens rest) : Cut rules (blanks ++ source) tokens rest :=
  append (.stop source hblanks) h

/-- What is left is the unchanged end of the source. -/
theorem suffix {source rest : Text} {tokens : List Token} (h : Cut rules source tokens rest) :
    rest <:+ source := by
  induction h with
  | stop rest hblanks => exact List.suffix_append _ rest
  | take _ _ _ _ ih =>
      rw [← List.append_assoc]
      exact ih.trans (List.suffix_append _ _)

end Cut

/-! ### Unfolding the cutting -/

theorem tokenize_nil : rules.tokenize [] = .ok [] := by
  rw [tokenize]
  rfl

/-- Blanks in front do not change the outcome either. -/
theorem tokenize_blanks {blanks : Text} (hblanks : blanks.AllBlank) (rest : Text) :
    rules.tokenize (blanks ++ rest) = rules.tokenize rest := by
  rw [tokenize, tokenize, Text.trimStart_append_of_allBlank hblanks]

/-- Where no rule fits the error tells all that is left. -/
theorem Stuck.tokenize {rest : Text} (h : Stuck rules rest) :
    rules.tokenize rest = .error ⟨rest⟩ := by
  obtain ⟨hsolid, hnone⟩ := h
  rw [RuleSet.tokenize]
  split
  · next htrim => simp [Text.trimStart_of_startsSolid hsolid] at htrim; simp [htrim] at hsolid
  · next c more htrim =>
    rw [Text.trimStart_of_startsSolid hsolid] at htrim
    subst htrim
    split
    · rfl
    · next token hfound => rw [hnone] at hfound; cases hfound

/-- One round of the loop: a token that is found comes first, and the rest is cut as if it stood
alone. -/
theorem tokenize_token {token : Token} {behind : Text} (hsolid : token.text.startsSolid = true)
    (hfound : rules.matchStart? (token.text ++ behind) = some token) :
    rules.tokenize (token.text ++ behind) = (rules.tokenize behind).map (token :: ·) := by
  have htrim : (token.text ++ behind).trimStart = token.text ++ behind :=
    Text.trimStart_of_startsSolid (Text.startsSolid_append hsolid behind)
  rw [RuleSet.tokenize]
  split
  · next hnil =>
    rw [htrim] at hnil
    simp [(List.append_eq_nil_iff.1 hnil).1] at hsolid
  · next c rest hcons =>
    rw [htrim] at hcons
    split
    · next hnone => rw [← hcons, hfound] at hnone; cases hnone
    · next other hother =>
      rw [← hcons, hfound] at hother
      cases hother
      rw [← hcons, List.drop_left]
      cases rules.tokenize behind <;> rfl

/-! ### The two directions -/

/-- A cut may be made first and the rest of the source cut later. -/
theorem Cut.tokenize {source rest : Text} {tokens : List Token} (h : Cut rules source tokens rest) :
    rules.tokenize source = (rules.tokenize rest).map (tokens ++ ·) := by
  induction h with
  | stop rest hblanks =>
      rw [tokenize_blanks hblanks]
      cases rules.tokenize rest <;> rfl
  | @take _ _ rest _ _ hblanks hsolid hfound _ ih =>
      rw [tokenize_blanks hblanks, tokenize_token hsolid hfound, ih]
      cases rules.tokenize rest <;> rfl

/-- A token that the rules find is the start of the text, and it is not empty. -/
theorem exists_of_matchStart? {input : Text} {token : Token}
    (h : rules.matchStart? input = some token) :
    ∃ behind, input = token.text ++ behind ∧ (token.text = [] → input = []) := by
  obtain ⟨n, hn, htext⟩ := matchStart?_eq_take h
  refine ⟨input.drop n, ?_, ?_⟩
  · rw [htext, List.take_append_drop]
  · intro hnil
    rw [htext, List.take_eq_nil_iff] at hnil
    exact hnil.resolve_left (Nat.ne_of_gt hn)

/-- Every source can be cut up to its end or up to a place where no rule fits. -/
theorem exists_cut (rules : RuleSet) (source : Text) :
    ∃ tokens rest, Cut rules source tokens rest ∧ (rest = [] ∨ Stuck rules rest) := by
  obtain ⟨blanks, rest, rfl, hblanks, rfl | hsolid⟩ := source.exists_blanks
  · exact ⟨[], [], .stop [] hblanks, .inl rfl⟩
  cases hfound : rules.matchStart? rest with
  | none => exact ⟨[], rest, .stop rest hblanks, .inr ⟨hsolid, hfound⟩⟩
  | some token =>
      obtain ⟨behind, rfl, hne⟩ := exists_of_matchStart? hfound
      have htoken : token.text.startsSolid = true := by
        cases htext : token.text with
        | nil => simp [hne htext] at hsolid
        | cons c text => simpa [htext] using hsolid
      -- The token is not empty, so less is left than before.
      have hshorter : behind.length < (blanks ++ (token.text ++ behind)).length := by
        have hpos : token.text.length ≠ 0 := fun hnil => by
          simp [List.length_eq_zero_iff.1 hnil] at htoken
        simp only [List.length_append]
        omega
      obtain ⟨tokens, left, hcut, hend⟩ := exists_cut rules behind
      exact ⟨token :: tokens, left, .take hblanks htoken hfound hcut, hend⟩
termination_by source.length

/-- The tokens are those of a cut that leaves nothing. -/
theorem tokenize_eq_ok_iff {source : Text} {tokens : List Token} :
    rules.tokenize source = .ok tokens ↔ Cut rules source tokens [] := by
  constructor
  · intro h
    obtain ⟨found, rest, hcut, rfl | hstuck⟩ := exists_cut rules source
    · rw [hcut.tokenize, tokenize_nil] at h
      have htokens : found ++ [] = tokens := Except.ok.inj h
      rw [← htokens, List.append_nil]
      exact hcut
    · rw [hcut.tokenize, hstuck.tokenize] at h
      cases h
  · intro h
    rw [h.tokenize, tokenize_nil]
    exact congrArg Except.ok (List.append_nil tokens)

/-- The error tells where a cut gets stuck. -/
theorem tokenize_eq_error_iff {source : Text} {error : LexError} :
    rules.tokenize source = .error error ↔
      Stuck rules error.remaining ∧ ∃ tokens, Cut rules source tokens error.remaining := by
  constructor
  · intro h
    obtain ⟨found, rest, hcut, rfl | hstuck⟩ := exists_cut rules source
    · rw [hcut.tokenize, tokenize_nil] at h
      cases h
    · rw [hcut.tokenize, hstuck.tokenize] at h
      cases h
      exact ⟨hstuck, found, hcut⟩
  · rintro ⟨hstuck, tokens, hcut⟩
    rw [hcut.tokenize, hstuck.tokenize]
    rfl

/-- What the rules find at the start of the input, told from the leftmost match of each: the first
rule whose leftmost match gives a token that starts with the input and is not empty. -/
def leftmost? (rules : RuleSet) (input : Text) : Option Token :=
  rules.findSome? fun rule =>
    (rule.pattern.find? input).bind fun span =>
      if span.1 = 0 ∧ 0 < span.2 then some ⟨rule.category, input.take span.2⟩ else none

/-- To match at the start, and to look for the leftmost match and ask whether it is at the start,
come to the same. -/
theorem matchStart?_eq_leftmost? (input : Text) :
    rules.matchStart? input = rules.leftmost? input := by
  unfold matchStart? leftmost?
  congr 1
  funext rule
  rw [Rule.matchStart?, Pattern.matchPrefix?_eq_find?]
  cases rule.pattern.find? input with
  | none => rfl
  | some span =>
      simp only [Option.bind_some]
      split <;> rfl

/-- **Nothing is lost**: whatever the rules are, cutting a source gives tokens exactly if the source
is blanks and these tokens in turn, and stops exactly where, behind blanks and tokens, no rule fits.
Either way a token is what the leftmost matches of the rules give at its place. -/
theorem tokenize_loses_nothing (rules : RuleSet) (source : Text) :
    (∀ tokens, rules.tokenize source = .ok tokens ↔ Cut rules source tokens []) ∧
      (∀ error, rules.tokenize source = .error error ↔
        error.remaining <:+ source ∧ Stuck rules error.remaining ∧
          ∃ tokens, Cut rules source tokens error.remaining) ∧
      ∀ input, rules.matchStart? input = rules.leftmost? input := by
  refine ⟨fun tokens => tokenize_eq_ok_iff, fun error => ?_, matchStart?_eq_leftmost?⟩
  rw [tokenize_eq_error_iff]
  constructor
  · rintro ⟨hstuck, tokens, hcut⟩
    exact ⟨hcut.suffix, hstuck, tokens, hcut⟩
  · rintro ⟨-, hstuck, hcut⟩
    exact ⟨hstuck, hcut⟩

end RuleSet

end CobolSubset
