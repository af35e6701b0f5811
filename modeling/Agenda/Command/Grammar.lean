import Agenda.Text.Numeral

/-!
# The form of a command line

A form lists the options, flags and the positional argument that a command takes. Reading goes from
left to right. An option's value may be attached or follow as the next argument; what has been read
is settled, that is checked and kept, only when the next option or positional argument starts, or at
the end. So of two faults the one that is met first is reported, and an unknown option is reported
even if the value before it is wrong.
-/

namespace Agenda.CommandLine

/-- Why a command line gives no command. -/
inductive UsageFault where
  /-- The help text is asked for. -/
  | helpWanted
  /-- The version is asked for. -/
  | versionWanted
  /-- There are no arguments at all. -/
  | noArguments
  /-- No command is named. -/
  | noCommand
  /-- A word is no command. -/
  | unknownCommand
  /-- A required argument is missing. -/
  | missingArgument
  /-- An option does not exist, or there are too many positional arguments. -/
  | unknownArgument
  /-- An option has no value. -/
  | missingValue
  /-- A value is no number, or out of range. -/
  | badValue
  /-- An option is repeated, or excludes another one that is given. -/
  | conflict
  /-- A flag has a value. -/
  | unneededValue
deriving DecidableEq, Repr

/-- What the value of an argument may be. -/
inductive ValueKind where
  /-- Any text. -/
  | text
  /-- A number of 64 bits with a sign. -/
  | int64
  /-- A number of 32 bits without a sign. -/
  | nat32
deriving DecidableEq, Repr

/-- Whether a value is of the kind. -/
def ValueKind.accepts (kind : ValueKind) (value : String) : Bool :=
  match kind with
  | text => true
  | int64 => (Text.readInt64? value.toList).isSome
  | nat32 => (Text.readInt64? value.toList).any fun n => decide (0 ≤ n ∧ n < (Text.limit32 : Int))

/-- What an argument does when it is met. -/
inductive Effect where
  /-- It takes a value. -/
  | takesValue (kind : ValueKind)
  /-- It is a flag. -/
  | sets
  /-- It is a flag that asks for the help text. -/
  | asksHelp
  /-- It is a flag that asks for the version. -/
  | asksVersion
deriving DecidableEq, Repr

/-- An option, flag or positional argument. -/
structure Slot where
  name : String
  short : Option Char := none
  effect : Effect := .takesValue .text
  /-- Whether the value may start with a hyphen although it stands alone. -/
  hyphenValue : Bool := false
deriving DecidableEq, Repr

/-- The arguments of a command. -/
structure Form where
  options : List Slot
  positional : Option Slot := none
  required : List String := []
  exclusive : List (String × String) := []

/-- The flag for the help text, which every form has. -/
def helpFlag : Slot := { name := "help", short := some 'h', effect := .asksHelp }

/-- The option with a long name. -/
def Form.long? (form : Form) (name : String) : Option Slot :=
  form.options.find? (·.name == name)

/-- The option with a short name. -/
def Form.short? (form : Form) (letter : Char) : Option Slot :=
  form.options.find? (·.short == some letter)

/-- How far a command line has been read: what is settled, the argument that is not yet settled with
its value once it has one, whether the positional argument is used up, and whether only positional
arguments may follow. -/
structure Progress where
  given : List (String × String) := []
  pending : Option (Slot × Option String) := none
  positionalUsed : Bool := false
  trailing : Bool := false

namespace Progress

/-- The settled value of an argument. -/
def value? (progress : Progress) (name : String) : Option String := progress.given.lookup name

/-- Whether an argument is settled. -/
def has (progress : Progress) (name : String) : Bool := (progress.value? name).isSome

/-- Keeps a value. An argument may be given once. -/
def keep (progress : Progress) (slot : Slot) (value : String) : Except UsageFault Progress :=
  if progress.has slot.name then .error .conflict
  else
    let acceptable := match slot.effect with
      | .takesValue kind => kind.accepts value
      | _ => true
    if acceptable then .ok { progress with given := progress.given ++ [(slot.name, value)] }
    else .error .badValue

/-- Settles the argument that is pending. -/
def settle (progress : Progress) : Except UsageFault Progress :=
  match progress.pending with
  | none => .ok progress
  | some (_, none) => .error .missingValue
  | some (slot, some value) => { progress with pending := none }.keep slot value

/-- The option that waits for the next argument as its value. -/
def waiting? (progress : Progress) : Option Slot :=
  match progress.pending with
  | some (slot, none) => some slot
  | _ => none

/-- Meets a flag. -/
def meetFlag (progress : Progress) (slot : Slot) : Except UsageFault Progress := do
  let progress ← progress.settle
  match slot.effect with
  | .asksHelp => .error .helpWanted
  | .asksVersion => .error .versionWanted
  | _ => progress.keep slot ""

/-- Meets an option that takes a value, which may be attached to it. -/
def meetOption (progress : Progress) (slot : Slot) (attached : Option String) :
    Except UsageFault Progress := do
  let progress ← progress.settle
  match attached with
  | some value => progress.keep slot value
  | none => return { progress with pending := some (slot, none) }

/-- Meets a positional argument. `otherwise` is the fault if the form has no place for it. -/
def meetPositional (form : Form) (otherwise : UsageFault) (progress : Progress) (value : String) :
    Except UsageFault Progress :=
  match progress.positionalUsed, form.positional with
  | false, some slot => do
    let progress ← progress.settle
    return { progress with pending := some (slot, some value), positionalUsed := true }
  | _, _ => .error otherwise

/-- Meets options by their short names; a value may follow the last one directly. -/
def meetShort (form : Form) (progress : Progress) : List Char → Except UsageFault Progress
  | [] => .ok progress
  | letter :: rest =>
    match form.short? letter with
    | none => .error .unknownArgument
    | some slot =>
      match slot.effect with
      | .takesValue _ =>
        match rest with
        | [] => progress.meetOption slot none
        | '=' :: value => progress.meetOption slot (some (String.ofList value))
        | value => progress.meetOption slot (some (String.ofList value))
      | _ => do
        let progress ← progress.meetFlag slot
        meetShort form progress rest

/-- Meets an option by its long name. -/
def meetLong (form : Form) (progress : Progress) (name : String) (attached : Option String) :
    Except UsageFault Progress :=
  match form.long? name with
  | none => .error .unknownArgument
  | some slot =>
    match slot.effect, attached with
    | .takesValue _, _ => progress.meetOption slot attached
    | _, some _ => .error .unneededValue
    | _, none => progress.meetFlag slot

end Progress

/-- An argument by its looks. -/
inductive Shape where
  /-- Two hyphens, after which all arguments are positional. -/
  | divider
  /-- Two hyphens and a name, perhaps with a value behind an equals sign. -/
  | long (name : String) (attached : Option String)
  /-- A hyphen and short names. -/
  | short (letters : List Char)
  /-- Anything else. -/
  | plain
deriving DecidableEq, Repr

/-- A long option split at its first equals sign. -/
def longShape (cs : List Char) : Shape :=
  let name := String.ofList (cs.takeWhile (· ≠ '='))
  match cs.dropWhile (· ≠ '=') with
  | [] => .long name none
  | _ :: value => .long name (some (String.ofList value))

/-- The looks of an argument. -/
def shapeOf (argument : String) : Shape :=
  match argument.toList with
  | ['-', '-'] => .divider
  | '-' :: '-' :: cs => longShape cs
  | ['-'] => .plain
  | '-' :: letters => .short letters
  | _ => .plain

/-- Reads an argument that is no value of the option before it. -/
def Progress.readShape (form : Form) (progress : Progress) (shape : Shape) (argument : String) :
    Except UsageFault Progress :=
  match shape with
  | .divider => .ok { progress with trailing := true }
  | .long name attached => progress.meetLong form name attached
  | .short letters => progress.meetShort form letters
  | .plain => progress.meetPositional form .unknownArgument argument

/-- Reads one argument. -/
def Progress.read (form : Form) (progress : Progress) (argument : String) :
    Except UsageFault Progress :=
  if progress.trailing then progress.meetPositional form .unknownArgument argument
  else
    match progress.waiting?, shapeOf argument with
    | some slot, shape =>
      if slot.hyphenValue || shape == .plain then
        .ok { progress with pending := some (slot, some argument) }
      else progress.readShape form shape argument
    | none, shape => progress.readShape form shape argument

/-- Reads all arguments of a command. -/
def Progress.readAll (form : Form) (progress : Progress) : List String → Except UsageFault Progress
  | [] => progress.settle
  | argument :: arguments => do
    let progress ← progress.read form argument
    progress.readAll form arguments

/-- Checks what has been read of a command: no two arguments that exclude each other, and none
missing. -/
def Form.check (form : Form) (progress : Progress) : Except UsageFault Unit :=
  if form.exclusive.any fun (a, b) => progress.has a && progress.has b then .error .conflict
  else if form.required.all progress.has then .ok ()
  else .error .missingArgument

end Agenda.CommandLine
