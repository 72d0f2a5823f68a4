import CobolSubset.Pattern.Basic

/-!
# Reading the characters and sets of a pattern

Behind a backslash stand sets (`\d \w \s` and their capitals), places (`\b \B \< \> \A \z`),
characters by name (`\n`), by number (`\x41`, `\u00e9`, `\x{e9}`) and signs that would mean
something without it. A set in brackets holds characters, ranges, such escapes, named classes of
ASCII (`[:alpha:]`), further sets, and takes unions, intersections (`&&`), differences (`--`) and
symmetric differences (`~~`) of them, from left to right.

Sets of characters by their Unicode properties, `\p` and `\P`, are not read: a pattern that holds
one is refused.
-/

namespace CobolSubset

inductive PatternError where
  | unclosedGroup
  | unopenedGroup
  | unclosedSet
  | emptyRange
  | nothingToRepeat
  | badCount
  | badEscape
  | badFlags
  | badGroupName
  | repeatedGroupName
  | lookAround
  /-- Without Unicode, a set that goes beyond ASCII would take single bytes of a character. -/
  | partOfCharacter
deriving DecidableEq, Repr

namespace Pattern

/-- What may change the meaning of the characters of a group. -/
structure Flags where
  anyCase : Bool := false
  /-- `^` and `$` are the ends of a line. -/
  linewise : Bool := false
  dotTakesAll : Bool := false
  /-- A return ends a line as well. -/
  returnEndsLine : Bool := false
  lazyFirst : Bool := false
  asciiOnly : Bool := false
deriving DecidableEq, Repr

namespace Flags

def apply (flags : Flags) (s : CharSet) : CharSet :=
  if flags.anyCase then if flags.asciiOnly then .anyAsciiCase s else .anyCase s else s

def letters (flags : Flags) : Letters := if flags.asciiOnly then .ascii else .unicode

def lineEnding (flags : Flags) : LineEnding := if flags.returnEndsLine then .returnOrFeed else .feed

def caret (flags : Flags) : Anchor :=
  if flags.linewise then .lineStart flags.lineEnding else .textStart

def dollar (flags : Flags) : Anchor :=
  if flags.linewise then .lineEnd flags.lineEnding else .textEnd

end Flags

/-! ### Sets with a name -/

def unionOf : List CharSet → CharSet
  | [] => .compl .all
  | [s] => s
  | s :: more => .union s (unionOf more)

/-- The named classes of ASCII characters. -/
def asciiClasses : List (Text × CharSet) :=
  let digit := CharSet.range '0' '9'
  let lower := CharSet.range 'a' 'z'
  let upper := CharSet.range 'A' 'Z'
  [("alnum".toList, unionOf [digit, upper, lower]),
   ("alpha".toList, unionOf [upper, lower]),
   ("ascii".toList, .range '\x00' '\x7f'),
   ("blank".toList, CharSet.ofList ['\t', ' ']),
   ("cntrl".toList, unionOf [.range '\x00' '\x1f', .single '\x7f']),
   ("digit".toList, digit),
   ("graph".toList, .range '!' '~'),
   ("lower".toList, lower),
   ("print".toList, .range ' ' '~'),
   ("punct".toList, unionOf [.range '!' '/', .range ':' '@', .range '[' '\x60', .range '\x7b' '~']),
   ("space".toList, unionOf [.range '\t' '\r', .single ' ']),
   ("upper".toList, upper),
   ("word".toList, unionOf [digit, upper, .single '_', lower]),
   ("xdigit".toList, unionOf [digit, .range 'A' 'F', .range 'a' 'f'])]

/-- Reads a named class, of which the opening bracket has been read, up to its closing one: a name
between colons, with a caret before it for all other characters. What is no such class is left to
be read as a set. -/
def asciiClass? : Text → Option (CharSet × Text)
  | ':' :: text =>
    let (negated, text) := match text with
      | '^' :: rest => (true, rest)
      | _ => (false, text)
    match Text.cutAt (· == ':') text with
    | (name, some (']' :: rest)) =>
      (asciiClasses.lookup name).map fun s => (if negated then .compl s else s, rest)
    | _ => none
  | _ => none

/-! ### Escapes -/

/-- What a backslash and what is read behind it stand for. -/
inductive Escaped where
  | char (c : Char)
  | set (s : CharSet)
  | anchor (a : Anchor)
deriving DecidableEq, Repr

/-- One of the sets with a letter of their own. -/
def Escaped.ofClass (flags : Flags) (wide : CharSet) (asciiName : String) : Escaped :=
  .set (if flags.asciiOnly then (asciiClasses.lookup asciiName.toList).getD wide else wide)

def Escaped.outside (flags : Flags) (wide : CharSet) : Except PatternError Escaped :=
  if flags.asciiOnly then .error .partOfCharacter else .ok (.set (.compl wide))

def Escaped.edge (flags : Flags) (edge : WordEdge) : Escaped := .anchor (.word edge flags.letters)

/-- What the character behind a backslash stands for when it stands for all of the escape. Letters
and digits without a meaning are refused, and so is everything beyond ASCII; any other sign stands
for itself. -/
def escapedSign (flags : Flags) (c : Char) : Except PatternError Escaped :=
  match c with
  | 'd' => .ok (.ofClass flags .decimalDigit "digit")
  | 'D' => Escaped.outside flags .decimalDigit
  | 'w' => .ok (.ofClass flags .wordChar "word")
  | 'W' => Escaped.outside flags .wordChar
  | 's' => .ok (.ofClass flags .blank "space")
  | 'S' => Escaped.outside flags .blank
  | 'b' => .ok (.edge flags .boundary)
  | 'B' => .ok (.edge flags .noBoundary)
  | '<' => .ok (.edge flags .start)
  | '>' => .ok (.edge flags .stop)
  | 'A' => .ok (.anchor .textStart)
  | 'z' => .ok (.anchor .textEnd)
  | 'n' => .ok (.char '\n')
  | 't' => .ok (.char '\t')
  | 'r' => .ok (.char '\r')
  | 'f' => .ok (.char '\x0c')
  | 'v' => .ok (.char '\x0b')
  | 'a' => .ok (.char '\x07')
  | c => if c.toNat < 0x80 && !c.isAlphanum then .ok (.char c) else .error .badEscape

/-- The character with the number that the hexadecimal digits give. -/
def numbered (digits : Text) : Except PatternError Char :=
  match digits.foldlM (fun n d => (hexDigit? d).map (16 * n + ·)) 0 with
  | some n => if !digits.isEmpty && Nat.isValidChar n then .ok (Char.ofNat n) else .error .badEscape
  | none => .error .badEscape

/-- Reads the number of a character: as many digits as the letter before it asks for, or any number
of them in braces. -/
def number (digits : Nat) : Text → Except PatternError (Char × Text)
  | '\x7b' :: rest =>
    match Text.cutAt (· == '\x7d') rest with
    | (inside, some rest) => (numbered inside).map (·, rest)
    | (_, none) => .error .badEscape
  | text =>
    if text.length < digits then .error .badEscape
    else (numbered (text.take digits)).map (·, text.drop digits)

/-- The edges of a word that have a name. -/
def namedEdges : List (Text × WordEdge) :=
  [("start".toList, .start), ("end".toList, .stop), ("start-half".toList, .startHalf),
   ("end-half".toList, .stopHalf)]

/-- Reads an escape behind its backslash. A brace behind `\b` holds the name of an edge if it starts
like one, and otherwise counts repetitions. -/
def escape (flags : Flags) : Text → Except PatternError (Escaped × Text)
  | [] => .error .badEscape
  | 'x' :: rest => do
    let (c, behind) ← number 2 rest
    -- two digits alone stand for a byte when there is no Unicode
    if flags.asciiOnly && 0x80 ≤ c.toNat && rest.head? != some '\x7b' then .error .partOfCharacter
    else .ok (.char c, behind)
  | 'u' :: rest => do
    let (c, behind) ← number 4 rest
    .ok (.char c, behind)
  | 'U' :: rest => do
    let (c, behind) ← number 8 rest
    .ok (.char c, behind)
  | 'b' :: '\x7b' :: rest =>
    if rest.head?.any fun c => c.isAlpha || c == '-' then
      match Text.cutAt (· == '\x7d') rest with
      | (name, some behind) =>
        match namedEdges.lookup name with
        | some edge => .ok (.edge flags edge, behind)
        | none => .error .badEscape
      | (_, none) => .error .badEscape
    else .ok (.edge flags .boundary, '\x7b' :: rest)
  | c :: rest => do
    let meaning ← escapedSign flags c
    .ok (meaning, rest)

/-! ### Sets in brackets -/

/-- One element of a bracketed set: a character, which may start a range, or a whole set. -/
def setElement (flags : Flags) (text : Text) : Except PatternError (Escaped × Text) := do
  let (meaning, rest) ← match text with
    | [] => .error .unclosedSet
    | '\\' :: rest => escape flags rest
    | c :: rest => .ok (.char c, rest)
  match meaning with
  | .char c =>
    if flags.asciiOnly && 0x80 ≤ c.toNat then .error .partOfCharacter else .ok (.char c, rest)
  | .set s => .ok (.set s, rest)
  | .anchor _ => .error .badEscape

/-- An element of a bracketed set, or the range that starts with it. A hyphen before the closing
bracket or before another hyphen makes no range. -/
def setRange (flags : Flags) (text : Text) : Except PatternError (CharSet × Text) := do
  let (first, rest) ← setElement flags text
  let alone : Except PatternError (CharSet × Text) :=
    match first with
    | .char c => .ok (.single c, rest)
    | .set s => .ok (s, rest)
    | .anchor _ => .error .badEscape
  match rest with
  | [] => .error .unclosedSet
  | ['-'] => .error .unclosedSet
  | '-' :: next :: after =>
    if next = ']' ∨ next = '-' then alone
    else
      let (last, rest) ← setElement flags (next :: after)
      match first, last with
      | .char low, .char high => if low ≤ high then .ok (.range low high, rest) else .error .emptyRange
      | _, _ => .error .badEscape
  | _ => alone

/-- Leading hyphens of a bracketed set, each of which stands for itself. -/
def leadingHyphens : Text → List CharSet × Text
  | '-' :: rest =>
    let (found, rest) := leadingHyphens rest
    (.single '-' :: found, rest)
  | text => ([], text)

/-- What may stand between two unions in brackets. -/
inductive SetOperation where
  | intersection
  | difference
  | symmetricDifference
deriving DecidableEq, Repr

def SetOperation.apply : SetOperation → CharSet → CharSet → CharSet
  | intersection, a, b => .inter a b
  | difference, a, b => .inter a (.compl b)
  | symmetricDifference, a, b => .union (.inter a (.compl b)) (.inter b (.compl a))

/-- The set that the elements found last, the last one first, make together with what stands before
their operation. Case is ignored on each side, not only in the result. -/
def operand (flags : Flags) (before : Option (CharSet × SetOperation)) (found : List CharSet) :
    CharSet :=
  match before with
  | none => unionOf found.reverse
  | some (left, operation) => operation.apply (flags.apply left) (flags.apply (unionOf found.reverse))

mutual

/-- Reads a set behind its opening bracket, up to and including the closing one. A closing bracket
that comes first stands for itself. -/
def bracketSet (flags : Flags) : Nat → Text → Except PatternError (CharSet × Text)
  | 0, _ => .error .unclosedSet
  | fuel + 1, text =>
    let (negated, text) := match text with
      | '^' :: rest => (true, rest)
      | _ => (false, text)
    let (hyphens, text) := leadingHyphens text
    let (found, text) := match hyphens, text with
      | [], ']' :: rest => ([CharSet.single ']'], rest)
      | _, _ => (hyphens, text)
    match bracketItems flags fuel none found.reverse text with
    | .error e => .error e
    | .ok (items, rest) =>
      let members := if negated then .compl (flags.apply items) else flags.apply items
      if flags.asciiOnly && members.contains '\x80' then .error .partOfCharacter
      else .ok (members, rest)

/-- The remaining elements of a bracketed set; `found` holds those read so far since the last
operation, the last one first, and `before` that operation with what stands before it. -/
def bracketItems (flags : Flags) :
    Nat → Option (CharSet × SetOperation) → List CharSet → Text →
      Except PatternError (CharSet × Text)
  | 0, _, _, _ => .error .unclosedSet
  | fuel + 1, before, found, text =>
    let behind (operation : SetOperation) := some (operand flags before found, operation)
    match text with
    | [] => .error .unclosedSet
    | ']' :: rest => .ok (operand flags before found, rest)
    | '&' :: '&' :: rest => bracketItems flags fuel (behind .intersection) [] rest
    | '-' :: '-' :: rest => bracketItems flags fuel (behind .difference) [] rest
    | '~' :: '~' :: rest => bracketItems flags fuel (behind .symmetricDifference) [] rest
    | '[' :: rest =>
      match asciiClass? rest with
      | some (named, rest) => bracketItems flags fuel before (named :: found) rest
      | none =>
        match bracketSet flags fuel rest with
        | .error e => .error e
        | .ok (inner, rest) => bracketItems flags fuel before (inner :: found) rest
    | _ =>
      match setRange flags text with
      | .error e => .error e
      | .ok (item, rest) => bracketItems flags fuel before (item :: found) rest

end

end Pattern

end CobolSubset
