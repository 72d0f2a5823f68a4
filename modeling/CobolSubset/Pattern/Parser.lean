import CobolSubset.Pattern.SetParser
import CobolSubset.Text.IdentChar

/-!
# Reading a pattern from text

The written form of a pattern: characters stand for themselves, `.` for any character but a line
feed, `[...]` for sets, `( )` group, `|` separates alternatives, `* + ? {n,m}` repeat and take a
further `?` to become lazy, `^ $` are the ends of the text, and a backslash starts an escape. The
group named `tok` marks the token; other groups only bracket.

Flags change what follows in their group: `(?i)` ignores case, `(?m)` makes `^ $` the ends of a
line, `(?s)` lets `.` take what ends a line, `(?R)` makes a return end a line as well, `(?U)` makes
repetitions lazy unless a `?` follows, and `(?-u)` confines sets, edges of words and case to ASCII.

`Pattern.ofText` reads a whole text and says what is wrong with one that is no pattern. Beyond what
is no pattern it refuses the flag `x`, under which blanks and remarks mean nothing, and sets by
Unicode property. It has no limit on how long or deeply nested a pattern may be.
-/

namespace CobolSubset

namespace Pattern

/-! ### Repetition counts -/

/-- Decimal digits, with blanks around them, read as a number below 2^32. -/
def count (text : Text) : Option Nat × Text :=
  let text := text.trimStart
  let digits := text.takeWhile Char.isDigit
  let rest := Text.trimStart (text.dropWhile Char.isDigit)
  let value := digits.foldl (fun n d => 10 * n + (d.toNat - '0'.toNat)) 0
  (if digits.isEmpty || value ≥ 4294967296 then none else some value, rest)

/-- The bounds of a counted repetition, behind its opening brace and up to its closing one. -/
def bounds (text : Text) : Except PatternError ((Nat × Option Nat) × Text) :=
  let (least, rest) := count text
  match least, rest with
  | some least, '\x7d' :: rest => .ok ((least, some least), rest)
  | some least, ',' :: '\x7d' :: rest => .ok ((least, none), rest)
  | some least, ',' :: rest =>
    match count rest with
    | (some most, '\x7d' :: rest) => if least ≤ most then .ok ((least, some most), rest) else .error .badCount
    | _ => .error .badCount
  | _, _ => .error .badCount

/-- Whether a repetition is greedy: a question mark behind it turns it from what it would be. -/
def greed (flags : Flags) : Text → Bool × Text
  | '?' :: rest => (flags.lazyFirst, rest)
  | text => (!flags.lazyFirst, text)

/-! ### Groups -/

/-- How a group starts. -/
inductive GroupHead where
  /-- A group that brackets, under its own flags. -/
  | plain (flags : Flags)
  /-- A named group. -/
  | named (name : Text)
  /-- No group: new flags for the rest of the group around it. -/
  | directive (flags : Flags)
deriving DecidableEq, Repr

def Flags.set? (flags : Flags) (letter : Char) (value : Bool) : Option Flags :=
  match letter with
  | 'i' => some { flags with anyCase := value }
  | 'm' => some { flags with linewise := value }
  | 's' => some { flags with dotTakesAll := value }
  | 'R' => some { flags with returnEndsLine := value }
  | 'U' => some { flags with lazyFirst := value }
  | 'u' => some { flags with asciiOnly := !value }
  | _ => none

/-- Reads flag letters up to `)` or `:`; letters behind a hyphen clear their flag, and no letter
comes twice. `seen` holds the letters so far and `value` what the next one sets. -/
def flagLetters (flags : Flags) (seen : List Char) (value : Bool) :
    Text → Except PatternError (GroupHead × Text)
  | ')' :: rest =>
    if seen.isEmpty || seen.head? = some '-' then .error .badFlags else .ok (.directive flags, rest)
  | ':' :: rest =>
    if seen.head? = some '-' then .error .badFlags else .ok (.plain flags, rest)
  | '-' :: rest =>
    if value then flagLetters flags ('-' :: seen) false rest else .error .badFlags
  | c :: rest =>
    match flags.set? c value with
    | some flags => if seen.contains c then .error .badFlags else flagLetters flags (c :: seen) value rest
    | none => .error .badFlags
  | [] => .error .unclosedGroup

/-- Reads a group name up to its closing angle bracket. -/
def groupName (text : Text) : Except PatternError (GroupHead × Text) :=
  let name := text.takeWhile (· != '>')
  let good := match name with
    | [] => false
    | c :: more => isIdentStart c && more.all fun d => isIdentContinue d || ['.', '[', ']'].contains d
  match good, text.dropWhile (· != '>') with
  | true, _ :: rest => .ok (.named name, rest)
  | _, _ => .error .badGroupName

/-- Reads what stands behind an opening parenthesis. -/
def groupHead (flags : Flags) : Text → Except PatternError (GroupHead × Text)
  | '?' :: '=' :: _ => .error .lookAround
  | '?' :: '!' :: _ => .error .lookAround
  | '?' :: '<' :: '=' :: _ => .error .lookAround
  | '?' :: '<' :: '!' :: _ => .error .lookAround
  | '?' :: 'P' :: '<' :: rest => groupName rest
  | '?' :: '<' :: rest => groupName rest
  | '?' :: rest => flagLetters flags [] true rest
  | rest => .ok (.plain flags, rest)

/-! ### The pattern -/

/-- The set that a dot stands for. -/
def dotSet (flags : Flags) : Except PatternError CharSet :=
  if flags.asciiOnly then .error .partOfCharacter
  else if flags.dotTakesAll then .ok .all
  else .ok (.compl (if flags.returnEndsLine then CharSet.ofList ['\r', '\n'] else .single '\n'))

/-- What is known while a group is read. -/
structure GroupState where
  flags : Flags
  /-- The group names used so far in the whole pattern. -/
  names : List Text
  /-- The finished alternatives, the last one first. -/
  alternatives : List Pattern := []
  /-- The parts of the current alternative, the last one first; `none` is a flag directive. -/
  parts : List (Option Pattern) := []

namespace GroupState

def push (state : GroupState) (part : Pattern) : GroupState :=
  { state with parts := some part :: state.parts }

def closeAlternative (state : GroupState) : GroupState :=
  { state with
    alternatives := concat (state.parts.reverse.filterMap id) :: state.alternatives
    parts := [] }

def pattern (state : GroupState) : Pattern :=
  choice state.closeAlternative.alternatives.reverse

/-- Replaces the last part by its repetition. -/
def repeatLast (state : GroupState) (wrap : Pattern → Pattern) : Except PatternError GroupState :=
  match state.parts with
  | some part :: parts => .ok { state with parts := some (wrap part) :: parts }
  | _ => .error .nothingToRepeat

end GroupState

/-- The name of the group that marks the token. -/
def tokenGroup : Text := "tok".toList

/-- Reads alternatives up to a closing parenthesis, which is left in place, or the end of the text.
The result is the pattern, the group names used so far and the rest. Every step takes at least one
character, so `fuel` is never used up when it exceeds the length of the text. -/
def alternativesFrom : Nat → GroupState → Text → Except PatternError (Pattern × List Text × Text)
  | 0, _, _ => .error .unclosedGroup
  | fuel + 1, state, text =>
    match text with
    | [] => .ok (state.pattern, state.names, [])
    | ')' :: _ => .ok (state.pattern, state.names, text)
    | '|' :: rest => alternativesFrom fuel state.closeAlternative rest
    | '(' :: rest => do
      let (head, rest) ← groupHead state.flags rest
      match head with
      | .directive flags =>
        alternativesFrom fuel { state with flags := flags, parts := none :: state.parts } rest
      | .plain flags =>
        let (inner, names, rest) ← alternativesFrom fuel { flags := flags, names := state.names } rest
        match rest with
        | ')' :: rest => alternativesFrom fuel ({ state with names := names }.push inner) rest
        | _ => .error .unclosedGroup
      | .named name =>
        if state.names.contains name then .error .repeatedGroupName
        else
          let (inner, names, rest) ←
            alternativesFrom fuel { flags := state.flags, names := name :: state.names } rest
          let group := if name = tokenGroup then token inner else inner
          match rest with
          | ')' :: rest => alternativesFrom fuel ({ state with names := names }.push group) rest
          | _ => .error .unclosedGroup
    | '*' :: rest => do
      let (greedy, rest) := greed state.flags rest
      let state ← state.repeatLast (star greedy)
      alternativesFrom fuel state rest
    | '+' :: rest => do
      let (greedy, rest) := greed state.flags rest
      let state ← state.repeatLast (plus greedy)
      alternativesFrom fuel state rest
    | '?' :: rest => do
      let (greedy, rest) := greed state.flags rest
      let state ← state.repeatLast (opt greedy)
      alternativesFrom fuel state rest
    | '\x7b' :: rest => do
      let _ ← state.repeatLast id
      let ((least, most), rest) ← bounds rest
      let (greedy, rest) := greed state.flags rest
      let state ← state.repeatLast fun part => repeated greedy part least most
      alternativesFrom fuel state rest
    | '[' :: rest => do
      let (members, rest) ← bracketSet state.flags (rest.length + 1) rest
      alternativesFrom fuel (state.push (.set members)) rest
    | '^' :: rest => alternativesFrom fuel (state.push (.anchor state.flags.caret)) rest
    | '$' :: rest => alternativesFrom fuel (state.push (.anchor state.flags.dollar)) rest
    | '.' :: rest => do
      let dot ← dotSet state.flags
      alternativesFrom fuel (state.push (.set dot)) rest
    | '\\' :: rest => do
      let (meaning, rest) ← escape state.flags rest
      match meaning with
      | .char c => alternativesFrom fuel (state.push (.set (state.flags.apply (.single c)))) rest
      | .set s => alternativesFrom fuel (state.push (.set s)) rest
      | .anchor a => alternativesFrom fuel (state.push (.anchor a)) rest
    | c :: rest => alternativesFrom fuel (state.push (.set (state.flags.apply (.single c)))) rest

def ofText (text : Text) : Except PatternError Pattern := do
  let (pattern, _, rest) ← alternativesFrom (text.length + 1) { flags := {}, names := [] } text
  match rest with
  | [] => .ok pattern
  | _ => .error .unopenedGroup

end Pattern

end CobolSubset
