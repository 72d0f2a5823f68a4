import CobolSubset.Proofs.Spelling

/-!
# Rust names

The Rust name of a text is made in two steps: letters become small and hyphens low lines, and then a
word of the language is told apart by a low line at its end. `IsSnakeName` says how the results look;
they are exactly the texts that are their own Rust name (`identifier_eq_self_iff`). Which texts have
a Rust name at all is `Nameable`.

Two variables of a program should not become one. On the names of a program the first step can be
undone (`restore_map_nameChar`), so only the second can bring two of them together. It does so for a
word of the language in capital letters and the same word with a hyphen behind it, as `TYPE` and
`TYPE-`, and for no others (`identifier_eq_iff`).
-/

namespace CobolSubset.Rust

/-! ### Characters -/

/-- What holds of all code points of a range holds of the characters in it. -/
theorem of_range {p : Char → Prop} {first count : Nat}
    (hall : ∀ n ∈ List.range' first count, p (Char.ofNat n)) {c : Char}
    (h : first ≤ c.toNat ∧ c.toNat < first + count) : p c := by
  have hc := hall c.toNat (List.mem_range'_1.2 h)
  rwa [Char.ofNat_toNat] at hc

theorem range_of_isUpper {c : Char} (h : c.isUpper = true) : 65 ≤ c.toNat ∧ c.toNat < 65 + 26 := by
  have hrange : 65 ≤ c.toNat ∧ c.toNat ≤ 90 := by
    simpa [Char.isUpper, UInt32.le_iff_toNat_le, ← Char.toNat_val] using h
  omega

theorem range_of_isDigit {c : Char} (h : c.isDigit = true) : 48 ≤ c.toNat ∧ c.toNat < 48 + 10 := by
  have hrange : 48 ≤ c.toNat ∧ c.toNat ≤ 57 := by
    simpa [Char.isDigit, UInt32.le_iff_toNat_le, ← Char.toNat_val] using h
  omega

theorem toLower_of_not_isUpper {c : Char} (h : c.isUpper = false) : c.toLower = c := by
  unfold Char.toLower
  rw [dif_neg]
  intro hrange
  have hupper : c.isUpper = true := by simpa [Char.isUpper] using hrange
  rw [hupper] at h
  cases h

/-- The Rust form of a character is a letter, digit or low line like the character itself, and a
hyphen becomes a low line. -/
theorem nameChar_class (c : Char) :
    (nameChar c).isAlpha = c.isAlpha ∧ (nameChar c).isAlphanum = c.isAlphanum ∧
      (nameChar c = '_' ↔ c = '_' ∨ c = '-') := by
  unfold nameChar
  by_cases hhyphen : c = '-'
  · subst hhyphen
    decide
  rw [if_neg hhyphen]
  cases hupper : c.isUpper with
  | true =>
      -- Only capital letters change, and there are few of them.
      refine of_range (p := fun c => c.toLower.isAlpha = c.isAlpha ∧
        c.toLower.isAlphanum = c.isAlphanum ∧ (c.toLower = '_' ↔ c = '_' ∨ c = '-')) ?_
        (range_of_isUpper hupper)
      decide
  | false =>
      rw [toLower_of_not_isUpper hupper]
      simp [hhyphen]

/-! ### Names -/

/-- The texts that have a Rust name: a letter, low line or hyphen, then letters, digits, low lines
and hyphens, but neither a hyphen nor a low line alone. -/
def Nameable (text : Text) : Prop :=
  (∃ c rest, text = c :: rest ∧ (c.isAlpha = true ∨ c = '_' ∨ c = '-') ∧
    ∀ d ∈ rest, d.isAlphanum = true ∨ d = '_' ∨ d = '-') ∧ text ≠ ['-'] ∧ text ≠ ['_']

theorem isNameForm_map_iff {text : Text} :
    isNameForm (text.map nameChar) = true ↔ Nameable text := by
  cases text with
  | nil => simp [isNameForm, Nameable]
  | cons c rest =>
      obtain ⟨halpha, -, hline⟩ := nameChar_class c
      have hrest : (rest.map nameChar).all (fun d => d.isAlphanum || d == '_') = true ↔
          ∀ d ∈ rest, d.isAlphanum = true ∨ d = '_' ∨ d = '-' := by
        rw [List.all_map, List.all_eq_true]
        refine forall₂_congr fun d _ => ?_
        obtain ⟨-, hnum, hd⟩ := nameChar_class d
        simp [hnum, hd]
      simp only [List.map_cons, isNameForm, Nameable, Bool.and_eq_true, hrest, halpha]
      simp only [Bool.or_eq_true, beq_iff_eq, hline, Bool.not_eq_true', Bool.and_eq_false_iff,
        beq_eq_false_iff_ne, ne_eq, List.isEmpty_eq_false_iff, List.map_eq_nil_iff]
      grind

instance (text : Text) : Decidable (Nameable text) := decidable_of_iff _ isNameForm_map_iff

theorem exists_identifier_iff {text : Text} :
    (∃ name, identifier text = .ok name) ↔ Nameable text := by
  rw [← isNameForm_map_iff]
  by_cases h : isNameForm (text.map nameChar) = true
  · simp [identifier, h]
  · simp [identifier, h]

/-- The error of a text without a Rust name holds the text as it was. -/
theorem identifier_eq_error_iff {text : Text} {error : GenerateError} :
    identifier text = .error error ↔ ¬ Nameable text ∧ error = .invalidLiteral text := by
  rw [← isNameForm_map_iff]
  by_cases h : isNameForm (text.map nameChar) = true
  · simp [identifier, h]
  · simp [identifier, h, eq_comm]

theorem nameable_of_isName {text : Text} (h : IsName text) : Nameable text := by
  have hpart {c : Char} (hc : isNamePart c = true) : c.isAlphanum = true ∨ c = '-' := by
    simp only [isNamePart, Bool.or_eq_true, beq_iff_eq] at hc
    rcases hc with (hupper | hdigit) | hhyphen
    · exact .inl (by simp [Char.isAlphanum, Char.isAlpha, hupper])
    · exact .inl (by simp [Char.isAlphanum, hdigit])
    · exact .inr hhyphen
  cases text with
  | nil => exact absurd rfl h.ne_nil
  | cons c rest =>
      have hupper : c.isUpper = true := h.capital
      refine ⟨⟨c, rest, rfl, .inl (by simp [Char.isAlpha, hupper]), ?_⟩, ?_, ?_⟩
      · intro d hd
        rcases hpart (h.part (List.mem_cons_of_mem _ hd)) with hnum | hhyphen
        · exact .inl hnum
        · exact .inr (.inr hhyphen)
      · rintro ⟨⟩
        cases hupper
      · rintro ⟨⟩
        cases hupper

/-! ### The form of the results -/

/-- The characters of Rust names: small letters, digits and the low line. -/
def isSnakePart (c : Char) : Bool := c.isLower || c.isDigit || c == '_'

/-- A name that Rust code can use: a small letter or low line, then small letters, digits and low
lines, but neither the low line alone nor a word of the language. -/
structure IsSnakeName (name : Text) : Prop where
  start : name.head?.any (fun c => c.isLower || c == '_') = true
  parts : name.all isSnakePart = true
  ne_lowLine : name ≠ ['_']
  not_keyword : name ∉ keywords

theorem range_of_isLower {c : Char} (h : c.isLower = true) : 97 ≤ c.toNat ∧ c.toNat < 97 + 26 := by
  have hrange : 97 ≤ c.toNat ∧ c.toNat ≤ 122 := by
    simpa [Char.isLower, UInt32.le_iff_toNat_le, ← Char.toNat_val] using h
  omega

/-- Small letters, digits and low lines stay as they are. -/
theorem nameChar_of_isSnakePart {c : Char} (h : isSnakePart c = true) : nameChar c = c := by
  simp only [isSnakePart, Bool.or_eq_true, beq_iff_eq] at h
  rcases h with (hlower | hdigit) | rfl
  · refine of_range (p := fun c => nameChar c = c) ?_ (range_of_isLower hlower)
    decide
  · refine of_range (p := fun c => nameChar c = c) ?_ (range_of_isDigit hdigit)
    decide
  · rfl

theorem isLower_nameChar {c : Char} (h : c.isAlpha = true) : (nameChar c).isLower = true := by
  rw [Char.isAlpha, Bool.or_eq_true] at h
  rcases h with hupper | hlower
  · refine of_range (p := fun c => (nameChar c).isLower = true) ?_ (range_of_isUpper hupper)
    decide
  · rw [nameChar_of_isSnakePart (by simp [isSnakePart, hlower])]
    exact hlower

theorem isSnakePart_nameChar {c : Char} (h : c.isAlphanum = true ∨ c = '_' ∨ c = '-') :
    isSnakePart (nameChar c) = true := by
  rcases h with halphanum | rfl | rfl
  · rw [Char.isAlphanum, Bool.or_eq_true] at halphanum
    rcases halphanum with halpha | hdigit
    · simp [isSnakePart, isLower_nameChar halpha]
    · have hpart : isSnakePart c = true := by simp [isSnakePart, hdigit]
      rw [nameChar_of_isSnakePart hpart]
      exact hpart
  · rfl
  · rfl

theorem map_nameChar_of_parts {name : Text} (h : name.all isSnakePart = true) :
    name.map nameChar = name := by
  conv_rhs => rw [← List.map_id name]
  exact List.map_congr_left fun c hc => nameChar_of_isSnakePart (List.all_eq_true.1 h c hc)

/-- After the first step there are only small letters, digits and low lines. -/
theorem map_nameChar_form {text : Text} (h : Nameable text) :
    (text.map nameChar).head?.any (fun c => c.isLower || c == '_') = true ∧
      (text.map nameChar).all isSnakePart = true ∧ text.map nameChar ≠ ['_'] := by
  obtain ⟨⟨c, rest, rfl, hstart, hrest⟩, hhyphen, hline⟩ := h
  refine ⟨?_, ?_, ?_⟩
  · rcases hstart with halpha | rfl | rfl
    · simp [isLower_nameChar halpha]
    · rfl
    · rfl
  · rw [List.all_map, List.all_eq_true]
    intro d hd
    refine isSnakePart_nameChar ?_
    rcases List.mem_cons.1 hd with rfl | hd
    · exact hstart.imp_left fun halpha => by simp [Char.isAlphanum, halpha]
    · exact hrest d hd
  · intro heq
    obtain ⟨hc, hnil⟩ := List.cons_eq_cons.1 heq
    obtain rfl := List.map_eq_nil_iff.1 hnil
    rcases (nameChar_class c).2.2.1 hc with rfl | rfl
    · exact hline rfl
    · exact hhyphen rfl

/-- With a low line at its end no word of the language is one. -/
theorem keyword_lowLine_not_mem : ∀ word ∈ keywords, word ++ ['_'] ∉ keywords := by
  unfold keywords
  repeat rw [String.toList_ofList]
  decide

theorem identifier_of_nameable {text : Text} (h : Nameable text) :
    identifier text =
      .ok (if text.map nameChar ∈ keywords then text.map nameChar ++ ['_']
        else text.map nameChar) := by
  simp [identifier, isNameForm_map_iff.2 h]

theorem isSnakeName_of_identifier {text name : Text} (h : identifier text = .ok name) :
    IsSnakeName name := by
  have hname : Nameable text := exists_identifier_iff.1 ⟨name, h⟩
  obtain ⟨hstart, hparts, hline⟩ := map_nameChar_form hname
  rw [identifier_of_nameable hname, Except.ok.injEq] at h
  generalize text.map nameChar = mapped at *
  obtain ⟨c, rest, rfl⟩ : ∃ c rest, mapped = c :: rest := by
    cases mapped with
    | nil => cases hstart
    | cons c rest => exact ⟨c, rest, rfl⟩
  split at h
  · next hkeyword =>
      subst h
      refine ⟨hstart, ?_, by simp, keyword_lowLine_not_mem _ hkeyword⟩
      rw [List.all_append, hparts]
      rfl
  · next hkeyword => exact h ▸ ⟨hstart, hparts, hline, hkeyword⟩

theorem nameable_of_isSnakeName {name : Text} (h : IsSnakeName name) : Nameable name := by
  obtain ⟨hstart, hparts, hline, -⟩ := h
  cases name with
  | nil => cases hstart
  | cons c rest =>
      have hletter : c.isLower = true ∨ c = '_' := by simpa using hstart
      refine ⟨⟨c, rest, rfl, ?_, ?_⟩, ?_, hline⟩
      · rcases hletter with hlower | hline
        · exact .inl (by simp [Char.isAlpha, hlower])
        · exact .inr (.inl hline)
      · intro d hd
        have hpart : isSnakePart d = true :=
          List.all_eq_true.1 hparts d (List.mem_cons_of_mem c hd)
        simp only [isSnakePart, Bool.or_eq_true, beq_iff_eq] at hpart
        rcases hpart with (hlower | hdigit) | hline
        · exact .inl (by simp [Char.isAlphanum, Char.isAlpha, hlower])
        · exact .inl (by simp [Char.isAlphanum, hdigit])
        · exact .inr (.inl hline)
      · rintro ⟨⟩
        simp at hletter

/-- The results are the texts that are their own Rust name. -/
theorem identifier_eq_self_iff {name : Text} : identifier name = .ok name ↔ IsSnakeName name := by
  constructor
  · exact isSnakeName_of_identifier
  · intro h
    rw [identifier_of_nameable (nameable_of_isSnakeName h), map_nameChar_of_parts h.parts,
      if_neg h.not_keyword]

/-- **The Rust name of a text**: a text has one exactly if it is a letter, low line or hyphen and
then letters, digits, low lines and hyphens, but neither a hyphen nor a low line alone. The name is
in small letters and usable in Rust code, and it is its own Rust name. Otherwise the error holds the
text as it was. -/
theorem identifier_usable (text : Text) :
    ((∃ name, identifier text = .ok name) ↔ Nameable text) ∧
    (∀ name, identifier text = .ok name → IsSnakeName name ∧ identifier name = .ok name) ∧
    ∀ error, identifier text = .error error → error = .invalidLiteral text := by
  refine ⟨exists_identifier_iff, ?_, ?_⟩
  · intro name hname
    have hsnake := isSnakeName_of_identifier hname
    exact ⟨hsnake, identifier_eq_self_iff.2 hsnake⟩
  · intro error herror
    exact (identifier_eq_error_iff.1 herror).2

/-- A word of the language whose letters are partly capital, and a text that starts with a digit. -/
theorem identifier_usable_type :
    (IsSnakeName "type_".toList ∧ identifier "type_".toList = .ok "type_".toList) ∧
      ¬ Nameable "2-B".toList := by
  obtain ⟨-, hname, -⟩ := identifier_usable "Type".toList
  obtain ⟨hsome, -, -⟩ := identifier_usable "2-B".toList
  refine ⟨hname _ (by decide), fun hnameable => ?_⟩
  obtain ⟨name, hname⟩ := hsome.2 hnameable
  cases hname

/-! ### Names that are brought together -/

def capitals (word : Text) : Text := word.map Char.toUpper

/-- Undoes the first step on the names of a program. -/
def restore (name : Text) : Text := name.map fun c => if c = '_' then '-' else c.toUpper

/-- Names of a program hold no low lines and no small letters, so nothing is lost. -/
theorem restore_map_nameChar {text : Text} (h : IsName text) :
    restore (text.map nameChar) = text := by
  rw [restore, List.map_map]
  conv_rhs => rw [← List.map_id text]
  refine List.map_congr_left fun c hc => ?_
  have hpart := h.part hc
  simp only [isNamePart, Bool.or_eq_true, beq_iff_eq] at hpart
  rcases hpart with (hupper | hdigit) | rfl
  · refine of_range (p := fun c => (if nameChar c = '_' then '-' else (nameChar c).toUpper) = c) ?_
      (range_of_isUpper hupper)
    decide
  · refine of_range (p := fun c => (if nameChar c = '_' then '-' else (nameChar c).toUpper) = c) ?_
      (range_of_isDigit hdigit)
    decide
  · rfl

theorem restore_append_lowLine (name : Text) : restore (name ++ ['_']) = restore name ++ ['-'] :=
  List.map_append

/-- The words of the language and their capital forms correspond. -/
theorem capitals_keyword :
    ∀ word ∈ keywords, restore word = capitals word ∧ (capitals word).map nameChar = word := by
  unfold keywords
  repeat rw [String.toList_ofList]
  decide

/-- The only way in which two names can be brought together. -/
inductive Merged : Text → Text → Prop
  | intro {word : Text} : word ∈ keywords → Merged (capitals word) (capitals word ++ ['-'])

/-- If the name of `a` got its low line in the second step and the name of `b` had it before, then
`b` is `a` with a hyphen. -/
theorem Merged.of_append {a b : Text} (ha : IsName a) (hb : IsName b)
    (hkeyword : a.map nameChar ∈ keywords)
    (heq : a.map nameChar ++ ['_'] = b.map nameChar) : Merged a b := by
  have hcapitals : capitals (a.map nameChar) = a :=
    (capitals_keyword _ hkeyword).1.symm.trans (restore_map_nameChar ha)
  have hhyphen : b = a ++ ['-'] := by
    rw [← restore_map_nameChar hb, ← heq, restore_append_lowLine, restore_map_nameChar ha]
  have hmerged := Merged.intro hkeyword
  rwa [hcapitals, ← hhyphen] at hmerged

theorem Merged.identifier_eq {a b : Text} (h : Merged a b) (ha : Nameable a) (hb : Nameable b) :
    identifier a = identifier b := by
  obtain ⟨hkeyword⟩ := h
  have hmapped := (capitals_keyword _ hkeyword).2
  have happend (word : Text) : (word ++ ['-']).map nameChar = word.map nameChar ++ ['_'] :=
    List.map_append
  rw [identifier_of_nameable ha, identifier_of_nameable hb, happend, hmapped, if_pos hkeyword,
    if_neg (keyword_lowLine_not_mem _ hkeyword)]

/-- Two names of a program have one Rust name only if they are equal or brought together by the low
line behind a word of the language. -/
theorem identifier_eq_iff {a b : Text} (ha : IsName a) (hb : IsName b) :
    identifier a = identifier b ↔ a = b ∨ Merged a b ∨ Merged b a := by
  have hna := nameable_of_isName ha
  have hnb := nameable_of_isName hb
  constructor
  · intro h
    rw [identifier_of_nameable hna, identifier_of_nameable hnb, Except.ok.injEq] at h
    have hcancel (heq : a.map nameChar = b.map nameChar) : a = b := by
      rw [← restore_map_nameChar ha, heq, restore_map_nameChar hb]
    split at h
    · next hkeyword =>
        split at h
        · exact .inl (hcancel (List.append_cancel_right h))
        · exact .inr (.inl (.of_append ha hb hkeyword h))
    · split at h
      · next hkeyword => exact .inr (.inr (.of_append hb ha hkeyword h.symm))
      · exact .inl (hcancel h)
  · rintro (rfl | hmerged | hmerged)
    · rfl
    · exact hmerged.identifier_eq hna hnb
    · exact (hmerged.identifier_eq hnb hna).symm

end CobolSubset.Rust

namespace CobolSubset.RuleSet

/-- Some source has the token under the standard rules. -/
def Yields (token : Token) : Prop :=
  ∃ source tokens, standard.tokenize source = .ok tokens ∧ token ∈ tokens

theorem isName_of_yields {name : Text} (h : Yields ⟨.identifier, name⟩) : IsName name := by
  obtain ⟨source, tokens, htokens, hmem⟩ := h
  obtain ⟨behind, hlexeme⟩ := (tokenize_eq_ok_iff.1 htokens).exists_lexeme _ hmem
  exact hlexeme.isName

/-- **Variables that Rust code takes for one**: every identifier of a source has a Rust name, and two
of them have the same one exactly if they are equal, or one is a word of Rust in capital letters and
the other is that word with one hyphen behind it. -/
theorem identifier_eq_iff_of_yields {a b : Text} (ha : Yields ⟨.identifier, a⟩)
    (hb : Yields ⟨.identifier, b⟩) :
    (∃ name, Rust.identifier a = .ok name) ∧ (∃ name, Rust.identifier b = .ok name) ∧
      (Rust.identifier a = Rust.identifier b ↔
        a = b ∨ ∃ word ∈ Rust.keywords,
          (a = Rust.capitals word ∧ b = Rust.capitals word ++ ['-']) ∨
          (b = Rust.capitals word ∧ a = Rust.capitals word ++ ['-'])) := by
  have hna := isName_of_yields ha
  have hnb := isName_of_yields hb
  refine ⟨Rust.exists_identifier_iff.2 (Rust.nameable_of_isName hna),
    Rust.exists_identifier_iff.2 (Rust.nameable_of_isName hnb), ?_⟩
  rw [Rust.identifier_eq_iff hna hnb]
  constructor
  · rintro (heq | ⟨⟨hword⟩⟩ | ⟨⟨hword⟩⟩)
    · exact .inl heq
    · exact .inr ⟨_, hword, .inl ⟨rfl, rfl⟩⟩
    · exact .inr ⟨_, hword, .inr ⟨rfl, rfl⟩⟩
  · rintro (heq | ⟨word, hword, ⟨rfl, rfl⟩ | ⟨rfl, rfl⟩⟩)
    · exact .inl heq
    · exact .inr (.inl ⟨hword⟩)
    · exact .inr (.inr ⟨hword⟩)

/-- `TYPE` and `TYPE-` are brought together, `TYPE` and `TYPE--` are not. -/
theorem identifier_eq_iff_of_yields_type :
    Rust.identifier "TYPE".toList = Rust.identifier "TYPE-".toList ∧
      Rust.identifier "TYPE".toList ≠ Rust.identifier "TYPE--".toList := by
  have htokens : standard.tokenize "TYPE TYPE- TYPE--".toList =
      .ok [⟨.identifier, "TYPE".toList⟩, ⟨.identifier, "TYPE-".toList⟩,
        ⟨.identifier, "TYPE--".toList⟩] := by
    rw [standard_eq_spelled, String.toList_ofList]
    decide +kernel
  have hword : Yields ⟨.identifier, "TYPE".toList⟩ := ⟨_, _, htokens, by simp⟩
  have hone : Yields ⟨.identifier, "TYPE-".toList⟩ := ⟨_, _, htokens, by simp⟩
  have htwo : Yields ⟨.identifier, "TYPE--".toList⟩ := ⟨_, _, htokens, by simp⟩
  constructor
  · exact (identifier_eq_iff_of_yields hword hone).2.2.2
      (.inr ⟨"type".toList, by decide, .inl ⟨rfl, rfl⟩⟩)
  · intro heq
    have hcases := (identifier_eq_iff_of_yields hword htwo).2.2.1 heq
    revert hcases
    decide

end CobolSubset.RuleSet
