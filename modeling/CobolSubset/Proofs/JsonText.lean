import CobolSubset.Json.Pretty
import CobolSubset.Proofs.Decoding

/-!
# JSON text stands for one value

A value is written over several lines, with strings that may hold any characters. Still the text can
be read in one way only (`Json.pretty_injective`).

Numbers are the one part that does not tell where it ends: `1` is the start of `12`. So values are
told apart together with what stands behind them, which never starts with a character of a number
(`Json.toldApart`). The first character tells the sort of a value (`Json.leading_head`), numbers are
told by their digits, strings character by character, and the parts of arrays and objects one after
the other (`Json.join_cancel`).
-/

namespace CobolSubset

/-! ### Digits -/

namespace Text

theorem ofNat_injective {m n : Nat} (h : ofNat m = ofNat n) : m = n := by
  rw [← @Nat.ofDigitChars_ten_toDigits m, ← @Nat.ofDigitChars_ten_toDigits n]
  exact congrArg (Nat.ofDigitChars 10 · 0) h

theorem ofNat_ne_nil (n : Nat) : ofNat n ≠ [] := Nat.toDigits_ne_nil

theorem isDigit_of_mem_ofNat {n : Nat} {c : Char} (h : c ∈ ofNat n) : c.isDigit = true :=
  Nat.isDigit_of_mem_toDigits (by decide) (by decide) h

theorem not_mem_ofNat {n : Nat} {c : Char} (hc : c.isDigit = false) : c ∉ ofNat n := by
  intro h
  rw [isDigit_of_mem_ofNat h] at hc
  cases hc

end Text

namespace Json

/-! ### Numbers -/

/-- The characters that numbers are written with. -/
def isNumberChar (c : Char) : Bool := c.isDigit || c == '-' || c == '.'

/-- The sign and the digits tell a whole number. -/
theorem intText_injective {m n : Int} (h : intText m = intText n) : m = n := by
  have hsign {m n : Nat} : Text.ofNat m ≠ '-' :: Text.ofNat n := fun heq =>
    Text.not_mem_ofNat (c := '-') rfl (heq ▸ List.mem_cons_self)
  cases m with
  | ofNat m =>
      cases n with
      | ofNat n => rw [Text.ofNat_injective h]
      | negSucc n => exact absurd h hsign
  | negSucc m =>
      cases n with
      | ofNat n => exact absurd h.symm hsign
      | negSucc n => rw [Nat.succ.inj (Text.ofNat_injective (List.cons.inj h).2)]

/-- A number with decimal places is its sign, the digits before the point and those behind it. -/
theorem numberText_eq (m : Int) {e : Nat} (he : e ≠ 0) :
    ∃ whole places, numberText m e = (if m < 0 then ['-'] else []) ++ whole ++ '.' :: places ∧
      whole ≠ [] ∧ (∀ c ∈ whole ++ places, c.isDigit = true) ∧ places.length = e ∧
      Nat.ofDigitChars 10 (whole ++ places) 0 = m.natAbs := by
  generalize hdigits : Text.ofNat m.natAbs = digits
  generalize hpadded : List.replicate (e + 1 - digits.length) '0' ++ digits = padded
  have hlength : e + 1 ≤ padded.length := by
    rw [← hpadded, List.length_append, List.length_replicate]
    omega
  refine ⟨padded.take (padded.length - e), padded.drop (padded.length - e), ?_, ?_, ?_, ?_, ?_⟩
  · rw [numberText, if_neg he, hdigits]
    simp only [hpadded]
  · intro hnil
    have hzero := congrArg List.length hnil
    rw [List.length_take, List.length_nil] at hzero
    omega
  · rw [List.take_append_drop, ← hpadded]
    intro c hc
    rcases List.mem_append.1 hc with hzero | hdigit
    · rw [List.eq_of_mem_replicate hzero]
      rfl
    · exact Text.isDigit_of_mem_ofNat (hdigits ▸ hdigit)
  · rw [List.length_drop]
    omega
  · rw [List.take_append_drop, ← hpadded, Nat.ofDigitChars_append, Nat.ofDigitChars_replicate_zero,
      Nat.mul_zero, ← hdigits]
    exact Nat.ofDigitChars_ten_toDigits

theorem point_not_mem_intText (n : Int) : '.' ∉ intText n := by
  cases n with
  | ofNat n => exact Text.not_mem_ofNat rfl
  | negSucc n =>
      rw [intText, List.mem_cons, not_or]
      exact ⟨by decide, Text.not_mem_ofNat rfl⟩

theorem point_mem_numberText (m : Int) {e : Nat} (he : e ≠ 0) : '.' ∈ numberText m e := by
  obtain ⟨whole, places, htext, -⟩ := numberText_eq m he
  simp [htext]

theorem numberText_zero (m : Int) : numberText m 0 = intText m := if_pos rfl

/-- The sign is the first character, since a digit is there otherwise. -/
theorem sign_cancel {p q : Prop} [Decidable p] [Decidable q] {whole whole' behind behind' : Text}
    (hne : whole ≠ []) (hne' : whole' ≠ []) (hdigits : ∀ c ∈ whole, c.isDigit = true)
    (hdigits' : ∀ c ∈ whole', c.isDigit = true)
    (h : (if p then ['-'] else []) ++ whole ++ behind =
      (if q then ['-'] else []) ++ whole' ++ behind') :
    (p ↔ q) ∧ whole ++ behind = whole' ++ behind' := by
  have hhyphen : ∀ {whole : Text}, (∀ c ∈ whole, c.isDigit = true) → '-' ∉ whole :=
    fun hdigits hmem => absurd (hdigits _ hmem) (by decide)
  obtain ⟨c, whole, rfl⟩ := List.exists_cons_of_ne_nil hne
  obtain ⟨c', whole', rfl⟩ := List.exists_cons_of_ne_nil hne'
  have hc : c ≠ '-' := fun heq => hhyphen hdigits (heq ▸ List.mem_cons_self)
  have hc' : c' ≠ '-' := fun heq => hhyphen hdigits' (heq ▸ List.mem_cons_self)
  by_cases hp : p <;> by_cases hq : q <;> simp_all [Ne.symm hc']

/-- The point tells where the decimal places begin, so it also tells their number. -/
theorem numberText_injective {m m' : Int} {e e' : Nat} (h : numberText m e = numberText m' e') :
    m = m' ∧ e = e' := by
  rcases eq_or_ne e 0 with rfl | he
  · rcases eq_or_ne e' 0 with rfl | he'
    · rw [numberText_zero, numberText_zero] at h
      exact ⟨intText_injective h, rfl⟩
    · have hpoint := h ▸ point_mem_numberText m' he'
      rw [numberText_zero] at hpoint
      exact absurd hpoint (point_not_mem_intText m)
  · rcases eq_or_ne e' 0 with rfl | he'
    · have hpoint := h ▸ point_mem_numberText m he
      rw [numberText_zero] at hpoint
      exact absurd hpoint (point_not_mem_intText m')
    · obtain ⟨whole, places, htext, hne, hdigits, hlength, hvalue⟩ := numberText_eq m he
      obtain ⟨whole', places', htext', hne', hdigits', hlength', hvalue'⟩ := numberText_eq m' he'
      rw [htext, htext'] at h
      rw [List.forall_mem_append] at hdigits hdigits'
      obtain ⟨hsign, hbehind⟩ := sign_cancel hne hne' hdigits.1 hdigits'.1 h
      have hpoint : ∀ {whole : Text}, (∀ c ∈ whole, c.isDigit = true) → '.' ∉ whole :=
        fun hdigits hmem => absurd (hdigits _ hmem) (by decide)
      obtain ⟨rfl, rfl⟩ := eq_of_first_mark (hpoint hdigits.1) (hpoint hdigits'.1) hbehind
      have habs : m.natAbs = m'.natAbs := hvalue.symm.trans hvalue'
      exact ⟨by omega, hlength.symm.trans hlength'⟩

/-- No other characters occur in a number. -/
theorem isNumberChar_of_mem {m : Int} {e : Nat} {c : Char} (h : c ∈ numberText m e) :
    isNumberChar c = true := by
  have hdigit : c.isDigit = true → isNumberChar c = true := fun hdigit => by
    simp [isNumberChar, hdigit]
  rcases eq_or_ne e 0 with rfl | he
  · rw [numberText_zero] at h
    cases m with
    | ofNat m => exact hdigit (Text.isDigit_of_mem_ofNat h)
    | negSucc m =>
        rcases List.mem_cons.1 h with rfl | h
        · rfl
        · exact hdigit (Text.isDigit_of_mem_ofNat h)
  · obtain ⟨whole, places, htext, -, hdigits, -, -⟩ := numberText_eq m he
    rw [List.forall_mem_append] at hdigits
    rw [htext, List.append_assoc, List.mem_append, List.mem_append, List.mem_cons] at h
    rcases h with hsign | hwhole | rfl | hplace
    · split at hsign
      · rw [List.mem_singleton.1 hsign]
        rfl
      · cases hsign
    · exact hdigit (hdigits.1 c hwhole)
    · rfl
    · exact hdigit (hdigits.2 c hplace)

theorem numberText_ne_nil (m : Int) (e : Nat) : numberText m e ≠ [] := by
  rcases eq_or_ne e 0 with rfl | he
  · rw [numberText_zero]
    cases m with
    | ofNat m => exact Text.ofNat_ne_nil m
    | negSucc m => exact List.cons_ne_nil _ _
  · exact List.ne_nil_of_mem (point_mem_numberText m he)

/-! ### Strings -/

/-- Reads one character of a string, with what stands behind it. The mark that ends the string is
none. -/
def readChar? : Text → Option (Char × Text)
  | '\\' :: '"' :: rest => some ('"', rest)
  | '\\' :: '\\' :: rest => some ('\\', rest)
  | '\\' :: 'b' :: rest => some ('\x08', rest)
  | '\\' :: 'f' :: rest => some ('\x0c', rest)
  | '\\' :: 'n' :: rest => some ('\n', rest)
  | '\\' :: 'r' :: rest => some ('\r', rest)
  | '\\' :: 't' :: rest => some ('\t', rest)
  | '\\' :: 'u' :: '0' :: '0' :: high :: low :: rest => do
    let high ← hexDigit? high
    let low ← hexDigit? low
    some (Char.ofNat (16 * high + low), rest)
  | '"' :: _ => none
  | c :: rest => some (c, rest)
  | [] => none

theorem hexDigit?_hexDigit : ∀ n < 16, hexDigit? (hexDigit n) = some n := by decide

/-- What is written for a character is read as this character. -/
theorem readChar?_escapeChar (c : Char) (rest : Text) :
    readChar? (escapeChar c ++ rest) = some (c, rest) := by
  unfold escapeChar
  split
  all_goals try rfl
  next hquote hslash _ _ _ _ _ =>
    split
    · next hcontrol =>
        have hnumber : 16 * (c.toNat / 16) + c.toNat % 16 = c.toNat := by omega
        show (hexDigit? (hexDigit (c.toNat / 16)) >>= fun high =>
          hexDigit? (hexDigit (c.toNat % 16)) >>= fun low =>
            some (Char.ofNat (16 * high + low), rest)) = _
        rw [hexDigit?_hexDigit _ (by omega), Option.bind_eq_bind, Option.bind_some,
          hexDigit?_hexDigit _ (by omega), Option.bind_some, hnumber, Char.ofNat_toNat]
    · show readChar? (c :: rest) = some (c, rest)
      unfold readChar?
      split <;> simp_all

/-- A string ends at its mark, so strings are told apart whatever stands behind them. -/
theorem quote_cancel {s s' rest rest' : Text} (h : quote s ++ rest = quote s' ++ rest') :
    s = s' ∧ rest = rest' := by
  have hinside : s.flatMap escapeChar ++ '"' :: rest = s'.flatMap escapeChar ++ '"' :: rest' := by
    simpa [quote] using h
  clear h
  induction s generalizing s' with
  | nil =>
      cases s' with
      | nil => exact ⟨rfl, (List.cons.inj hinside).2⟩
      | cons c s' =>
          have hread := congrArg readChar? hinside
          rw [List.flatMap_cons, List.append_assoc, readChar?_escapeChar] at hread
          cases hread
  | cons c s ih =>
      have hread := congrArg readChar? hinside
      rw [List.flatMap_cons, List.append_assoc, readChar?_escapeChar] at hread
      cases s' with
      | nil => cases hread
      | cons c' s' =>
          rw [List.flatMap_cons, List.append_assoc, readChar?_escapeChar] at hread
          obtain ⟨rfl, hrest⟩ := Prod.mk.inj (Option.some.inj hread)
          obtain ⟨rfl, hbehind⟩ := ih hrest
          exact ⟨rfl, hbehind⟩

/-! ### The parts of arrays and objects -/

/-- `ToldApart word a`: if no number goes on behind it, the word of `a` is not that of anything else.
-/
def ToldApart {α : Type} (word : α → Text) (a : α) : Prop :=
  ∀ (b : α) {rest rest' : Text}, Text.stops isNumberChar rest = true →
    Text.stops isNumberChar rest' = true → word a ++ rest = word b ++ rest' → a = b ∧ rest = rest'

/-- Parts with commas between them and a line feed at the end are told apart if each of them is. -/
theorem join_cancel {α : Type} {word : α → Text} {as bs : List α} {rest rest' : Text}
    (hapart : ∀ a ∈ as, ToldApart word a)
    (has : as ≠ []) (hbs : bs ≠ [])
    (h : Text.join [','] (as.map word) ++ '\n' :: rest =
      Text.join [','] (bs.map word) ++ '\n' :: rest') : as = bs ∧ rest = rest' := by
  induction as generalizing bs with
  | nil => exact absurd rfl has
  | cons a as ih =>
      obtain ⟨b, bs, rfl⟩ := List.exists_cons_of_ne_nil hbs
      -- Behind each part stands a comma or, if it is the last one, a line feed.
      have hjoin (a : α) (as : List α) (rest : Text) :
          ∃ behind, Text.join [','] ((a :: as).map word) ++ '\n' :: rest = word a ++ behind ∧
            Text.stops isNumberChar behind = true ∧
            behind = if as = [] then '\n' :: rest
              else ',' :: (Text.join [','] (as.map word) ++ '\n' :: rest) := by
        cases as with
        | nil => exact ⟨_, by simp [Text.join, List.intercalate], rfl, rfl⟩
        | cons next as =>
            refine ⟨_, ?_, rfl, rfl⟩
            rw [List.map_cons, List.map_cons, Text.join_cons_cons]
            simp
      obtain ⟨behind, htext, hstops, hbehind⟩ := hjoin a as rest
      obtain ⟨behind', htext', hstops', hbehind'⟩ := hjoin b bs rest'
      rw [htext, htext'] at h
      obtain ⟨rfl, hsame⟩ := hapart a List.mem_cons_self b hstops hstops' h
      rw [hbehind, hbehind'] at hsame
      split at hsame
      · next hlast =>
          split at hsame
          · next hlast' => exact ⟨by rw [hlast, hlast'], (List.cons.inj hsame).2⟩
          · cases (List.cons.inj hsame).1
      · next hmore =>
          split at hsame
          · cases (List.cons.inj hsame).1
          · next hmore' =>
              have hrest := (List.cons.inj hsame).2
              obtain ⟨rfl, hend⟩ := ih (fun c hc => hapart c (List.mem_cons_of_mem _ hc)) hmore
                hmore' hrest
              exact ⟨rfl, hend⟩

/-- Parts between brackets, with commas between them. -/
def bracketed (opening closing : Char) (depth : Nat) (parts : List Text) : Text :=
  if parts = [] then [opening, closing]
  else opening :: Text.join [','] parts ++ newLine depth ++ [closing]

/-- What is between brackets is told apart if each part is and starts on a line of its own. -/
theorem bracketed_cancel {α : Type} {word : α → Text} {as bs : List α} {rest rest' : Text}
    {opening closing : Char} {depth : Nat}
    (hapart : ∀ a ∈ as, ToldApart word a)
    (hfeed : ∀ a, (word a).head? = some '\n') (hclosing : closing ≠ '\n')
    (h : bracketed opening closing depth (as.map word) ++ rest =
      bracketed opening closing depth (bs.map word) ++ rest') : as = bs ∧ rest = rest' := by
  have hnil (rest : Text) :
      bracketed opening closing depth (([] : List α).map word) ++ rest = opening :: closing :: rest :=
    rfl
  have hparts {as : List α} (has : as ≠ []) (rest : Text) :
      bracketed opening closing depth (as.map word) ++ rest =
        opening :: (Text.join [','] (as.map word) ++
          '\n' :: (List.replicate (2 * depth) ' ' ++ closing :: rest)) := by
    simp [bracketed, has, newLine]
  have hhead {as : List α} (has : as ≠ []) (rest : Text) :
      (Text.join [','] (as.map word) ++ rest).head? = some '\n' := by
    obtain ⟨a, more, rfl⟩ := List.exists_cons_of_ne_nil has
    cases more with
    | nil => simp [Text.join, List.intercalate, hfeed]
    | cons next more =>
        rw [List.map_cons, List.map_cons, Text.join_cons_cons]
        simp [hfeed]
  have hempty {as : List α} (has : as ≠ []) {rest rest' : Text} :
      opening :: closing :: rest ≠ bracketed opening closing depth (as.map word) ++ rest' := by
    intro heq
    rw [hparts has] at heq
    have hfirst := congrArg List.head? (List.cons.inj heq).2
    rw [hhead has, List.head?_cons, Option.some.injEq] at hfirst
    exact hclosing hfirst
  rcases eq_or_ne as [] with rfl | has
  · rcases eq_or_ne bs [] with rfl | hbs
    · exact ⟨rfl, List.append_cancel_left h⟩
    · exact absurd h (hempty hbs)
  · rcases eq_or_ne bs [] with rfl | hbs
    · exact absurd h.symm (hempty has)
    · rw [hparts has, hparts hbs] at h
      obtain ⟨hsame, hend⟩ := join_cancel hapart has hbs (List.cons.inj h).2
      exact ⟨hsame, (List.cons.inj (List.append_cancel_left hend)).2⟩

def itemText (depth : Nat) (item : Json) : Text := newLine depth ++ prettyAt depth item

def fieldText (depth : Nat) (field : Text × Json) : Text :=
  newLine depth ++ quote field.1 ++ ": ".toList ++ prettyAt depth field.2

/-- The elements stand on their lines with commas between them. -/
theorem prettyItems_eq (depth : Nat) (items : List Json) :
    prettyItems depth items = Text.join [','] (items.map (itemText depth)) := by
  induction items with
  | nil => rfl
  | cons item more ih =>
      cases more with
      | nil => exact (List.append_nil _).symm
      | cons next more =>
          show itemText depth item ++ ',' :: prettyItems depth (next :: more) = _
          rw [ih, List.map_cons, List.map_cons, List.map_cons, Text.join_cons_cons]
          simp

theorem prettyFields_eq (depth : Nat) (fields : List (Text × Json)) :
    prettyFields depth fields = Text.join [','] (fields.map (fieldText depth)) := by
  induction fields with
  | nil => rfl
  | cons field more ih =>
      cases more with
      | nil => exact (List.append_nil _).symm
      | cons next more =>
          show fieldText depth field ++ ',' :: prettyFields depth (next :: more) = _
          rw [ih, List.map_cons, List.map_cons, List.map_cons, Text.join_cons_cons]
          simp

/-- An array is its lines between brackets, and the two brackets alone if it has no elements. -/
theorem prettyAt_array (depth : Nat) (items : List Json) :
    prettyAt depth (array items) =
      bracketed '[' ']' depth (items.map (itemText (depth + 1))) := by
  cases items with
  | nil => rfl
  | cons item more =>
      show '[' :: prettyItems (depth + 1) (item :: more) ++ newLine depth ++ [']'] = _
      rw [prettyItems_eq]
      rfl

theorem prettyAt_object (depth : Nat) (fields : List (Text × Json)) :
    prettyAt depth (object fields) =
      bracketed '\x7b' '\x7d' depth (fields.map (fieldText (depth + 1))) := by
  cases fields with
  | nil => rfl
  | cons field more =>
      show '\x7b' :: prettyFields (depth + 1) (field :: more) ++ newLine depth ++ ['\x7d'] = _
      rw [prettyFields_eq]
      rfl

/-! ### Values -/

/-- The first character of the text of a value, with a zero for all characters of numbers. -/
def leading : Json → Char
  | null => 'n'
  | bool true => 't'
  | bool false => 'f'
  | number _ _ => '0'
  | string _ => '"'
  | array _ => '['
  | object _ => '\x7b'

/-- The first character tells what sort of value a text starts with. -/
theorem leading_head (depth : Nat) (value : Json) (rest : Text) :
    (prettyAt depth value ++ rest).head?.map (fun c => if isNumberChar c then '0' else c) =
      some value.leading := by
  cases value with
  | null => rfl
  | bool b => cases b <;> rfl
  | number m e =>
      obtain ⟨c, more, htext⟩ := List.exists_cons_of_ne_nil (numberText_ne_nil m e)
      have hc : isNumberChar c = true := isNumberChar_of_mem (htext ▸ List.mem_cons_self)
      show (numberText m e ++ rest).head?.map _ = _
      simp [htext, hc, leading]
  | string s => rfl
  | array items => cases items <;> rfl
  | object fields => cases fields <;> rfl

theorem leading_eq {depth : Nat} {v w : Json} {rest rest' : Text}
    (h : prettyAt depth v ++ rest = prettyAt depth w ++ rest') : v.leading = w.leading := by
  have hhead := leading_head depth v rest
  rw [h, leading_head] at hhead
  exact (Option.some.inj hhead).symm

theorem toldApart_null (depth : Nat) : ToldApart (prettyAt depth) null := by
  intro w rest rest' _ _ h
  have hlead := leading_eq h
  cases w with
  | null => exact ⟨rfl, List.append_cancel_left h⟩
  | bool b => cases b <;> simp [leading] at hlead
  | _ => simp [leading] at hlead

theorem toldApart_bool (depth : Nat) (a : Bool) : ToldApart (prettyAt depth) (bool a) := by
  intro w rest rest' _ _ h
  have hlead := leading_eq h
  cases w with
  | bool b =>
      obtain rfl : a = b := by cases a <;> cases b <;> simp_all [leading]
      exact ⟨rfl, List.append_cancel_left h⟩
  | _ => cases a <;> simp [leading] at hlead

/-- A number has no bracket or mark at its end, so this one needs to know that none goes on behind
it. -/
theorem toldApart_number (depth : Nat) (m : Int) (e : Nat) :
    ToldApart (prettyAt depth) (number m e) := by
  intro w rest rest' hrest hrest' h
  have hlead := leading_eq h
  cases w with
  | number m' e' =>
      -- Where no number goes on, all characters of numbers at the start belong to this one.
      have h : numberText m e ++ rest = numberText m' e' ++ rest' := h
      have hnumber := congrArg (List.takeWhile isNumberChar) h
      have hbehind := congrArg (List.dropWhile isNumberChar) h
      rw [Text.takeWhile_append_of_stops (fun c => isNumberChar_of_mem) hrest,
        Text.takeWhile_append_of_stops (fun c => isNumberChar_of_mem) hrest'] at hnumber
      rw [Text.dropWhile_append_of_stops (fun c => isNumberChar_of_mem) hrest,
        Text.dropWhile_append_of_stops (fun c => isNumberChar_of_mem) hrest'] at hbehind
      obtain ⟨rfl, rfl⟩ := numberText_injective hnumber
      exact ⟨rfl, hbehind⟩
  | bool b => cases b <;> simp [leading] at hlead
  | _ => simp [leading] at hlead

theorem toldApart_string (depth : Nat) (s : Text) : ToldApart (prettyAt depth) (string s) := by
  intro w rest rest' _ _ h
  have hlead := leading_eq h
  cases w with
  | string s' =>
      obtain ⟨rfl, hbehind⟩ := @quote_cancel s s' rest rest' h
      exact ⟨rfl, hbehind⟩
  | bool b => cases b <;> simp [leading] at hlead
  | _ => simp [leading] at hlead

/-- The elements of an array are told apart from one another first; then so are arrays. -/
theorem toldApart_array {depth : Nat} {items : List Json}
    (hitems : ∀ item ∈ items, ToldApart (prettyAt (depth + 1)) item) :
    ToldApart (prettyAt depth) (array items) := by
  intro w rest rest' _ _ h
  have hlead := leading_eq h
  cases w with
  | array items' =>
      rw [prettyAt_array, prettyAt_array] at h
      have hlines : ∀ item ∈ items, ToldApart (itemText (depth + 1)) item := by
        intro item hitem other rest rest' hrest hrest' heq
        rw [itemText, itemText, List.append_assoc, List.append_assoc] at heq
        exact hitems item hitem other hrest hrest' (List.append_cancel_left heq)
      obtain ⟨rfl, hend⟩ := bracketed_cancel hlines (fun _ => rfl) (by decide) h
      exact ⟨rfl, hend⟩
  | bool b => cases b <;> simp [leading] at hlead
  | _ => simp [leading] at hlead

theorem toldApart_object {depth : Nat} {fields : List (Text × Json)}
    (hfields : ∀ field ∈ fields, ToldApart (prettyAt (depth + 1)) field.2) :
    ToldApart (prettyAt depth) (object fields) := by
  intro w rest rest' _ _ h
  have hlead := leading_eq h
  cases w with
  | object fields' =>
      rw [prettyAt_object, prettyAt_object] at h
      have hlines : ∀ field ∈ fields, ToldApart (fieldText (depth + 1)) field := by
        intro field hfield other rest rest' hrest hrest' heq
        simp only [fieldText, List.append_assoc] at heq
        obtain ⟨hname, hvalue⟩ := quote_cancel (List.append_cancel_left heq)
        obtain ⟨hvalue, hbehind⟩ := hfields field hfield other.2 hrest hrest'
          (List.append_cancel_left hvalue)
        exact ⟨Prod.ext hname hvalue, hbehind⟩
      obtain ⟨rfl, hend⟩ := bracketed_cancel hlines (fun _ => rfl) (by decide) h
      exact ⟨rfl, hend⟩
  | bool b => cases b <;> simp [leading] at hlead
  | _ => simp [leading] at hlead

/-- Values are told apart at any depth, as their parts are one level further in. -/
theorem toldApart (depth : Nat) (value : Json) : ToldApart (prettyAt depth) value := by
  cases value with
  | null => exact toldApart_null depth
  | bool b => exact toldApart_bool depth b
  | number m e => exact toldApart_number depth m e
  | string s => exact toldApart_string depth s
  | array items => exact toldApart_array fun item hitem => toldApart (depth + 1) item
  | object fields => exact toldApart_object fun field hfield => toldApart (depth + 1) field.2
termination_by sizeOf value
decreasing_by
  · have hsize := List.sizeOf_lt_of_mem hitem
    simp only [array.sizeOf_spec]
    omega
  · have hsize := List.sizeOf_lt_of_mem hfield
    have hpair : sizeOf field = 1 + sizeOf field.1 + sizeOf field.2 := rfl
    simp only [object.sizeOf_spec]
    omega

/-- **JSON text stands for one value.** -/
theorem pretty_injective {v w : Json} (h : v.pretty = w.pretty) : v = w := by
  have hsame : prettyAt 0 v ++ [] = prettyAt 0 w ++ [] := congrArg (· ++ []) h
  exact (toldApart 0 v w rfl rfl hsame).1

end Json

end CobolSubset
