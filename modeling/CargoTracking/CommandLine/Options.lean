import CargoTracking.CommandLine.LegText

/-!
# Options and operands

How the words of a command line are taken up as options, values and operands.  A value is accepted
only when the next option or operand begins, or the line ends: the first fault in this order is the
one that counts, but an option that does not exist is told at once.
-/

namespace CargoTracking

/-- Why a command line is refused, or answered by a text of its own. -/
inductive UsageFault
  | missingArgument
  | unknownArgument
  | unknownCommand
  | missingCommand
  | repeatedOption
  | missingValue
  | surplusValue
  /-- A value that does not read; for a leg with the reason. -/
  | invalidValue (reason : Option LegFault)
  | helpRequest
  | versionRequest
  deriving DecidableEq

namespace CommandLine

/-- What comes of an option. -/
inductive OptionShape
  | flag
  | value
  | values
  | answer (fault : UsageFault)

structure OptionSpec where
  name : String
  shape : OptionShape
  short : Option Char := none
  /-- Whether a value is accepted. -/
  accept : String → Except UsageFault Unit := fun _ => .ok ()

/-- The options, the operand and the commands that may come next. -/
structure Level where
  options : List OptionSpec
  operand : Option OptionSpec := none
  commands : List String := []

/-- What has been taken up of a line.  An option whose value has not been accepted is pending; it
may still wait for the value. -/
structure Taken where
  values : List (String × String) := []
  pending : Option (OptionSpec × Option String) := none
  operandTaken : Bool := false

namespace Taken

/-- Accepts the value of an option.  Only an option for several values may come again. -/
def accept (taken : Taken) (option : OptionSpec) (value : String) : Except UsageFault Taken := do
  match option.shape with
  | .values => pure ()
  | _ => if taken.values.any (·.1 == option.name) then throw .repeatedOption
  option.accept value
  return { taken with values := taken.values ++ [(option.name, value)] }

/-- Accepts what is pending. -/
def settle (taken : Taken) : Except UsageFault Taken :=
  match taken.pending with
  | none => .ok taken
  | some (_, none) => .error .missingValue
  | some (option, some value) => { taken with pending := none }.accept option value

def await (taken : Taken) (option : OptionSpec) (value : Option String) : Taken :=
  { taken with pending := some (option, value) }

/-- The option that still waits for its value. -/
def awaiting? (taken : Taken) : Option OptionSpec :=
  match taken.pending with
  | some (option, none) => some option
  | _ => none

def value? (taken : Taken) (name : String) : Option String := taken.values.lookup name

def allValues (taken : Taken) (name : String) : List String :=
  (taken.values.filter (·.1 == name)).map (·.2)

def has (taken : Taken) (name : String) : Bool := (taken.value? name).isSome

end Taken

/-- A word of the command line by its form. -/
inductive Word
  | terminator
  | long (name : String) (value : Option String)
  | shorts (letters : List Char)
  | plain

def Word.of (word : String) : Word :=
  match word.toList with
  | ['-', '-'] => terminator
  | '-' :: '-' :: cs =>
    let name := cs.takeWhile (· != '=')
    match cs.drop name.length with
    | [] => long (String.ofList name) none
    | _ :: value => long (String.ofList name) (some (String.ofList value))
  | '-' :: c :: cs => shorts (c :: cs)
  | _ => plain

namespace Level

/-- Takes up an option without a value of its own. -/
def takeSwitch (taken : Taken) (option : OptionSpec) : Except UsageFault Taken := do
  let taken ← taken.settle
  match option.shape with
  | .answer fault => throw fault
  | _ => taken.accept option "true"

def takeLong (level : Level) (taken : Taken) (name : String) (value : Option String) :
    Except UsageFault Taken :=
  match level.options.find? (·.name == name) with
  | none => .error .unknownArgument
  | some option =>
    match option.shape, value with
    -- A value in the word itself does not wait for the next one.
    | .value, some value | .values, some value => do (← taken.settle).accept option value
    | .value, none | .values, none => do return (← taken.settle).await option none
    | _, some _ => .error .surplusValue
    | _, none => takeSwitch taken option

def takeShort (level : Level) (taken : Taken) (letter : Char) : Except UsageFault Taken :=
  match level.options.find? (·.short == some letter) with
  | none => .error .unknownArgument
  | some option => takeSwitch taken option

/-- Takes up a word as the operand, if one is still expected.  After the terminator a command's
name is out of place. -/
def takeOperand (level : Level) (taken : Taken) (trailing : Bool) (word : String) :
    Except UsageFault Taken :=
  match level.operand with
  | some operand =>
    if taken.operandTaken then .error .unknownArgument
    else do return { (← taken.settle).await operand (some word) with operandTaken := true }
  | none =>
    if level.commands.isEmpty || (trailing && level.commands.contains word) then
      .error .unknownArgument
    else .error .unknownCommand

/-- Takes up the words up to the first command, which is given with the words after it. -/
def scan (level : Level) (trailing : Bool) (taken : Taken) :
    List String → Except UsageFault (Taken × Option (String × List String))
  | [] => do return (← taken.settle, none)
  | word :: words => do
    if trailing then
      level.scan true (← level.takeOperand taken true word) words
    else
      match Word.of word with
      | .terminator => level.scan true taken words
      | .long name value => level.scan false (← level.takeLong taken name value) words
      | .shorts letters => level.scan false (← letters.foldlM level.takeShort taken) words
      | .plain =>
        -- An option that waits for a value takes any plain word, even the name of a command.
        match taken.awaiting? with
        | some option => level.scan false (taken.await option (some word)) words
        | none =>
          if level.commands.contains word then return (taken, some (word, words))
          else level.scan false (← level.takeOperand taken false word) words

end Level

end CommandLine

end CargoTracking
