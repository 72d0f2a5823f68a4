import CobolSubset.Proofs.Cutting
import CobolSubset.Proofs.Lexeme

/-!
# Printing tokens and reading them again

The tokens of a source may be written down again in order, with blanks between them, and reading
that text gives the same tokens. Each token was found in a context that the printing changes. Most
of them do not mind (`Lexeme.exchange`); the one that looks at everything behind it is the lone
quotation mark, which is safe because what is printed behind it was taken from behind it.

Some of the tokens may also be left out, and another text may follow (`RuleSet.Cut.printed_append`).
-/

namespace CobolSubset

/-- `Printed tokens text`: the text is the tokens in order, with blanks between neighbours that
start with a line feed behind a comment. -/
inductive Printed : List Token → Text → Prop
  | nil : Printed [] []
  | last (token : Token) : Printed [token] token.text
  | cons {token next : Token} {tokens : List Token} {text : Text} (gap : Text) :
      gap.AllBlank → gap ≠ [] → (token.isComment = true → gap.head? = some '\n') →
      Printed (next :: tokens) text →
      Printed (token :: next :: tokens) (token.text ++ (gap ++ text))

/-- What is printed is blank or belongs to a token. -/
theorem Printed.blank_or_mem {tokens : List Token} {text : Text} (h : Printed tokens text)
    {c : Char} (hc : c ∈ text) : isBlank c = true ∨ ∃ token ∈ tokens, c ∈ token.text := by
  induction h with
  | nil => cases hc
  | last token => exact .inr ⟨token, List.mem_singleton_self token, hc⟩
  | @cons token next tokens text gap hgap _ _ _ ih =>
      simp only [List.mem_append] at hc
      rcases hc with hc | hc | hc
      · exact .inr ⟨token, List.mem_cons_self, hc⟩
      · exact .inl (hgap c hc)
      · refine (ih hc).imp_right ?_
        rintro ⟨found, hfound, hmem⟩
        exact ⟨found, List.mem_cons_of_mem _ hfound, hmem⟩

/-- What belongs to a token belongs to the source. -/
theorem RuleSet.Cut.mem_source {rules : RuleSet} {source rest : Text} {tokens : List Token}
    (h : Cut rules source tokens rest) {token : Token} (htoken : token ∈ tokens) {c : Char}
    (hc : c ∈ token.text) : c ∈ source := by
  induction h with
  | stop => cases htoken
  | take _ _ _ _ ih =>
      simp only [List.mem_append]
      rcases List.mem_cons.1 htoken with rfl | htoken
      · exact .inr (.inl hc)
      · exact .inr (.inr (ih htoken))

/-- Printing some of the tokens brings in no quotation mark. -/
theorem Printed.quote_not_mem {rules : RuleSet} {source text : Text} {tokens chosen : List Token}
    (hprinted : Printed chosen text) (hcut : rules.Cut source tokens []) (hchosen : chosen ⊆ tokens)
    (hsource : '"' ∉ source) : '"' ∉ text := by
  intro hmem
  rcases hprinted.blank_or_mem hmem with hblank | ⟨token, htoken, hquote⟩
  · exact (blank_separates hblank).2.2 (by decide)
  · exact hsource (hcut.mem_source (hchosen htoken) hquote)

namespace RuleSet

/-- A token of a source may stand before another text, if that text starts with a blank and brings
in no quotation mark. -/
theorem matchStart?_exchange {token : Token} {behind other : Text}
    (hfound : standard.matchStart? (token.text ++ behind) = some token)
    (hother : Separates token other) (hquote : '"' ∉ behind → '"' ∉ other) :
    standard.matchStart? (token.text ++ other) = some token :=
  matchStart?_append_eq_some_iff.2
    ((matchStart?_append_eq_some_iff.1 hfound).exchange hother hquote)

/-- Where a token of a source was found, what comes later is found behind it. -/
theorem Cut.exists_behind {rules : RuleSet} {source rest : Text} {tokens later : List Token}
    {token : Token} (hcut : Cut rules source tokens rest) (h : (token :: later).Sublist tokens) :
    ∃ behind tokens', token.text.startsSolid = true ∧
      rules.matchStart? (token.text ++ behind) = some token ∧
      Cut rules behind tokens' rest ∧ later.Sublist tokens' := by
  induction hcut with
  | stop => cases h
  | @take _ behind _ _ tokens _ hsolid hfound hbehind ih =>
      cases h with
      | cons _ h => exact ih h
      | cons_cons _ h => exact ⟨behind, tokens, hsolid, hfound, hbehind, h⟩

/-- The printed text is cut into the tokens it was printed from, also if they are only some of the
tokens of a source, and if another text follows that a blank starts and that brings in no quotation
mark. -/
theorem Cut.printed_append {source text rest : Text} {tokens chosen more : List Token}
    (hcut : Cut standard source tokens []) (hchosen : chosen.Sublist tokens)
    (hprinted : Printed chosen text) (hrest : ∀ token ∈ chosen.getLast?, Separates token rest)
    (hquote : '"' ∉ rest) (hmore : Cut standard rest more []) :
    Cut standard (text ++ rest) (chosen ++ more) [] := by
  -- Along the printed text; the source of the tokens left gets shorter with it.
  induction hprinted generalizing source tokens with
  | nil => exact hmore
  | last token =>
      obtain ⟨behind, -, hsolid, hfound, -, -⟩ := hcut.exists_behind hchosen
      exact .token hsolid (matchStart?_exchange hfound (hrest token rfl) fun _ => hquote) hmore
  | @cons token next later text gap hgap hne hfeed hlater ih =>
      obtain ⟨behind, tokens', hsolid, hfound, hbehind, hchosen'⟩ := hcut.exists_behind hchosen
      have hseparates : Separates token (gap ++ (text ++ rest)) := by
        intro c hc
        obtain ⟨d, blanks, rfl⟩ := List.exists_cons_of_ne_nil hne
        cases hc
        exact ⟨hgap c List.mem_cons_self, fun hcomment => Option.some.inj (hfeed hcomment)⟩
      have hclean : '"' ∉ behind → '"' ∉ gap ++ (text ++ rest) := by
        -- Only the lone quotation mark needs this: all that is printed was behind it before.
        intro hclean hmem
        simp only [List.mem_append] at hmem
        rcases hmem with hmem | hmem | hmem
        · exact (blank_separates (hgap _ hmem)).2.2 (by decide)
        · exact hlater.quote_not_mem hbehind hchosen'.subset hclean hmem
        · exact hquote hmem
      have hfound' := matchStart?_exchange hfound hseparates hclean
      rw [List.append_assoc, List.append_assoc]
      refine .token hsolid hfound' ((ih hbehind hchosen' ?_).skip hgap)
      simpa using hrest

theorem Cut.printed {source text : Text} {tokens : List Token}
    (hcut : Cut standard source tokens []) (hprinted : Printed tokens text) :
    Cut standard text tokens [] := by
  have hall := hcut.printed_append (List.Sublist.refl tokens) hprinted (by simp [Separates])
    (by simp) (.done [])
  rwa [List.append_nil, List.append_nil] at hall

/-- **Reading what was printed**: if a source has tokens, every text that they are printed as has
the same tokens. -/
theorem tokenize_printed {source text : Text} {tokens : List Token}
    (h : standard.tokenize source = .ok tokens) (hprinted : Printed tokens text) :
    standard.tokenize text = .ok tokens :=
  tokenize_eq_ok_iff.2 ((tokenize_eq_ok_iff.1 h).printed hprinted)

/-- A name, a comment with a quotation mark in it, two numbers, a period, a reserved word, a
relation and a lone quotation mark, read from as close together as they can stand and printed
apart. -/
theorem tokenize_printed_close :
    ∃ tokens, standard.tokenize "A*> \"\n1.5 12.TO<>\"".toList = .ok tokens ∧
      Printed tokens "A *> \"\n\t1.5\n12 . TO <> \"".toList ∧
      standard.tokenize "A *> \"\n\t1.5\n12 . TO <> \"".toList = .ok tokens := by
  obtain ⟨tokens, hclose, hapart⟩ : ∃ tokens,
      standard.tokenize "A*> \"\n1.5 12.TO<>\"".toList = .ok tokens ∧
        Printed tokens "A *> \"\n\t1.5\n12 . TO <> \"".toList := by
    refine ⟨[⟨.identifier, ['A']⟩, ⟨.comment, ['*', '>', ' ', '"']⟩, ⟨.number, ['1', '.', '5']⟩,
      ⟨.number, ['1', '2']⟩, ⟨.punctuation, ['.']⟩, ⟨.keyword, ['T', 'O']⟩,
      ⟨.operator, ['<', '>']⟩, ⟨.punctuation, ['"']⟩], ?_, ?_⟩
    · rw [standard_eq_spelled, String.toList_ofList]
      exact eq_ok_of_toOption (by decide +kernel)
    refine .cons [' '] (by decide) (by decide) (by decide) ?_
    refine .cons ['\n', '\t'] (by decide) (by decide) (by decide) ?_
    refine .cons ['\n'] (by decide) (by decide) (by decide) ?_
    refine .cons [' '] (by decide) (by decide) (by decide) ?_
    refine .cons [' '] (by decide) (by decide) (by decide) ?_
    refine .cons [' '] (by decide) (by decide) (by decide) ?_
    exact .cons [' '] (by decide) (by decide) (by decide) (.last _)
  exact ⟨tokens, hclose, hapart, tokenize_printed hclose hapart⟩

end RuleSet

end CobolSubset
