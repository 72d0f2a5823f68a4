import CobolSubset.Arguments.Basic

/-!
# Reading arguments

Arguments are read from left to right. A value that follows its option, or stands by itself, is
looked at only when the next argument or the end is reached; until then it is pending. An unknown
option is reported at once, also while a value is pending.

Forms: `--name value`, `--name=value`, `-n value`, `-nvalue`, `-n=value`, flags joined as in `-vq`;
`--` ends the options.
-/

namespace CobolSubset

/-- Why reading arguments ends before there is a command. -/
inductive Halt where
  | usage (error : UsageError)
  | help
  | version
deriving DecidableEq, Repr

/-- What may be given at one place of the command line. -/
structure Level where
  arguments : List Argument
  positional : Option Positional := none
  commands : List Text := []

/-- A value that has not been looked at. -/
structure Pending where
  label : Text
  repeatable : Bool
  read : Text → Except ValueError Setting
  /-- The value, if it has been given. -/
  value : Option Text

/-- How far reading has come. -/
structure Progress where
  settings : List Setting := []
  /-- The labels of the arguments that have been taken. -/
  given : List Text := []
  pending : Option Pending := none
  /-- Whether the value that stands by itself has been given. -/
  filled : Bool := false
  /-- Whether the options have been ended. -/
  ended : Bool := false

namespace Progress

def isWaiting (progress : Progress) : Bool :=
  match progress.pending with
  | some pending => pending.value.isNone
  | none => false

/-- Takes a setting of an argument, unless the argument was given before and may not be repeated. -/
def add (progress : Progress) (label : Text) (repeatable : Bool) (setting : Except UsageError Setting) :
    Except Halt Progress :=
  if !repeatable && progress.given.contains label then .error (.usage (.repeated label))
  else
    match setting with
    | .ok setting =>
      .ok { progress with settings := progress.settings ++ [setting], given := progress.given ++ [label] }
    | .error e => .error (.usage e)

def addValue (progress : Progress) (label : Text) (repeatable : Bool)
    (read : Text → Except ValueError Setting) (value : Text) : Except Halt Progress :=
  progress.add label repeatable ((read value).mapError fun e => e.usage value label)

/-- Looks at the pending value. -/
def settle (progress : Progress) : Except Halt Progress :=
  match progress.pending with
  | none => .ok progress
  | some pending =>
    match pending.value with
    | none => .error (.usage (.noValue pending.label))
    | some value =>
      { progress with pending := none }.addValue pending.label pending.repeatable pending.read value

/-- Gives an argument with or without a value attached to it. -/
def give (progress : Progress) (argument : Argument) (attached : Option Text) : Except Halt Progress :=
  match argument.action, attached with
  | .value _ repeatable read, some value => do
    let progress ← progress.settle
    progress.addValue argument.label repeatable read value
  | .value _ repeatable read, none => do
    let progress ← progress.settle
    return { progress with pending := some ⟨argument.label, repeatable, read, none⟩ }
  | _, some value => .error (.usage (.needlessValue value argument.label))
  | .flag setting, none => do
    let progress ← progress.settle
    progress.add argument.label false (.ok setting)
  | .help, none => do
    let _ ← progress.settle
    .error .help
  | .version, none => do
    let _ ← progress.settle
    .error .version

end Progress

namespace Level

def takeLong (level : Level) (progress : Progress) (body : Text) : Except Halt Progress :=
  let (name, value) := body.cutAt (· == '=')
  match level.arguments.find? fun argument => argument.long == name with
  | some argument => progress.give argument value
  | none => .error (.usage (.unexpected ("--".toList ++ name)))

/-- The value attached to a short name: what follows it, an equals sign aside. -/
def attached? : Text → Option Text
  | [] => none
  | '=' :: value => some value
  | value => some value

/-- Takes arguments by their short names. What follows one that takes a value is its value. -/
def takeShort (level : Level) (progress : Progress) : Text → Except Halt Progress
  | [] => .ok progress
  | c :: rest =>
    match level.arguments.find? fun argument => argument.short == some c with
    | none => .error (.usage (.unexpected ['-', c]))
    | some argument =>
      match argument.action with
      | .value _ _ _ => progress.give argument (attached? rest)
      | _ => do
        let progress ← progress.give argument none
        level.takeShort progress rest

def surplus (level : Level) (progress : Progress) (argument : Text) : UsageError :=
  if level.commands.isEmpty || (progress.ended && level.commands.contains argument) then .unexpected argument
  else .unknownCommand argument

def takePositional (level : Level) (progress : Progress) (argument : Text) : Except Halt Progress :=
  match level.positional, progress.filled with
  | some positional, false => do
    let progress ← progress.settle
    return { progress with
      filled := true
      pending := some ⟨positional.label, true, positional.read, some argument⟩ }
  | _, _ => .error (.usage (level.surplus progress argument))

def take (level : Level) (progress : Progress) (argument : Text) : Except Halt Progress :=
  if progress.ended then level.takePositional progress argument
  else
    match argument with
    | ['-', '-'] => .ok { progress with ended := true }
    | '-' :: '-' :: body => level.takeLong progress body
    | '-' :: c :: body => level.takeShort progress (c :: body)
    | value =>
      match progress.pending with
      | some ⟨label, repeatable, read, none⟩ =>
        .ok { progress with pending := some ⟨label, repeatable, read, some value⟩ }
      | _ => level.takePositional progress value

def entersCommand (level : Level) (progress : Progress) (argument : Text) : Bool :=
  !progress.ended && !progress.isWaiting && level.commands.contains argument

/-- Takes arguments up to the name of a command, and gives that name with what follows it. -/
def takeAll (level : Level) (progress : Progress) : List Text → Except Halt (Progress × Option (Text × List Text))
  | [] => .ok (progress, none)
  | argument :: rest =>
    if level.entersCommand progress argument then .ok (progress, some (argument, rest))
    else do
      let progress ← level.take progress argument
      level.takeAll progress rest

/-- The settings, once all arguments are there and none is missing. -/
def finish (level : Level) (progress : Progress) : Except Halt (List Setting) := do
  let progress ← progress.settle
  if level.positional.isSome && !progress.filled then .error (.usage .incomplete)
  else return progress.settings

end Level

end CobolSubset
