import Multitarget.Command.Misuse
import Multitarget.Domain.Target
import Multitarget.Text.Blank
import Multitarget.Text.DecimalDigit
import Multitarget.Text.Lines
import Multitarget.Text.Similarity

/-!
# Arguments

Words of a command line as settings with values. A long name may have its value
behind an equals sign, a short one right behind it. Two hyphens alone end the
settings. Of a repeated setting the last value counts.
-/

namespace Multitarget

/-- A setting with the value it was given; one that takes no value has an empty one. -/
abbrev Choice := Setting × String

namespace Arguments

/-- The setting of a name among those that are allowed. -/
def find? (settings : List Setting) (name : String) : Option Setting :=
  settings.find? fun setting => setting.names.contains name

/-- The long names of settings. -/
def longNames (settings : List Setting) : List String :=
  (settings.flatMap Setting.names).filter fun name => name.startsWith "--"

/-- What a word of a command line is. -/
inductive Word where
  /-- The end of the settings. -/
  | stop
  /-- A word that belongs to no setting. -/
  | plain
  /-- A setting that is given, with its value where it takes one. -/
  | given (choice : Choice)
  /-- A setting whose value is the next word. -/
  | awaiting (setting : Setting) (name : String)
  /-- A misuse. -/
  | wrong (misuse : Misuse)

/-- The name and the value of a word that are divided by an equals sign. -/
def divideWord (word : String) : String × Option String :=
  match word.toList.dropWhile (· != '=') with
  | [] => (word, none)
  | _ :: value => (String.ofList (word.toList.takeWhile (· != '=')), some (String.ofList value))

/-- What a word with a short name is, given the character behind the hyphen and what follows. -/
def readShort (settings : List Setting) (letter : Char) (rest : List Char) : Word :=
  let name := String.ofList ['-', letter]
  match find? settings name with
  | none => .wrong (.unknown name [])
  | some setting =>
    if rest.isEmpty then .awaiting setting name else .given (setting, String.ofList rest)

/-- What a word is. -/
def read (settings : List Setting) (word : String) : Word :=
  match word.toList with
  | ['-', '-'] => .stop
  | '-' :: letter :: rest =>
    let (name, value) := divideWord word
    match (find? settings name).filter fun _ => name.startsWith "--" with
    | some setting =>
      match setting.takesValue, value with
      | true, some value => .given (setting, value)
      | true, none => .awaiting setting name
      | false, some _ => .wrong (.valueGiven name)
      | false, none => .given (setting, "")
    | none =>
      if letter = '-' then .wrong (.unknown name (Text.closeMatches name (longNames settings)))
      else readShort settings letter rest
  | _ => .plain

/-- The settings of words in order, and the words that belong to none. With `ordered`, settings
end at the first such word. -/
def parse (settings : List Setting) (ordered : Bool) :
    List String → Except Misuse (List Choice × List String)
  | [] => .ok ([], [])
  | word :: rest =>
    match read settings word with
    | .stop => .ok ([], rest)
    | .wrong misuse => .error misuse
    | .plain =>
      if ordered then .ok ([], word :: rest)
      else (parse settings ordered rest).map fun (choices, words) => (choices, word :: words)
    | .given choice =>
      (parse settings ordered rest).map fun (choices, words) => (choice :: choices, words)
    | .awaiting setting name =>
      match rest with
      | [] => .error (.valueMissing name)
      | value :: rest =>
        (parse settings ordered rest).map fun (choices, words) =>
          ((setting, value) :: choices, words)

/-- The settings in the order in which they were first given, each with its last value. -/
def settle (choices : List Choice) : List Choice :=
  (choices.map Prod.fst).eraseDups.map fun setting =>
    (setting, ((choices.reverse.find? fun choice => choice.1 == setting).map Prod.snd).getD "")

/-! ## Values -/

/-- Digits of any script, of which single underscores may separate groups, as a number. -/
def digitsNumber (sum : Nat) : List Char → Option Nat
  | [] => none
  | [digit] => (Text.decimalDigit digit).map (10 * sum + ·)
  | digit :: '_' :: rest =>
    match Text.decimalDigit digit with
    | some value => digitsNumber (10 * sum + value) rest
    | none => none
  | digit :: rest =>
    match Text.decimalDigit digit with
    | some value => digitsNumber (10 * sum + value) rest
    | none => none

/-- The whole number that a text writes, with blanks around it and a sign. -/
def number? (text : String) : Option Int :=
  let trimmed := Text.trimWhile Text.isBlank text.toList
  let digits (written : List Char) : Option Nat :=
    if Text.numeralLimit < (written.filter (· != '_')).length then none else digitsNumber 0 written
  match trimmed with
  | '-' :: written => (digits written).map fun number => -(number : Int)
  | '+' :: written => (digits written).map fun number => (number : Int)
  | written => (digits written).map fun number => (number : Int)

end Arguments

/-- What a command is told. -/
structure Arguments where
  project : String
  config : Option String
  asJson : Bool
  byteCode : Bool
  output : String
  line : Int
  column : Int
  target : Option Family
  debugInfo : Bool
  /-- Whether only help is wanted. -/
  help : Bool
  deriving DecidableEq, Repr

namespace Arguments

/-- What a command is told where nothing is set. -/
def default : Arguments where
  project := "./project.yaml"
  config := none
  asJson := false
  byteCode := false
  output := "build/classes"
  line := 0
  column := 0
  target := none
  debugInfo := false
  help := false

/-- The families that a project can be translated to. -/
def targets : List (String × Family) := [("js", .js), ("wasm", .wasm)]

/-- The number that a setting is given. -/
def checkNumber (setting : Setting) (value : String) : Except Misuse Int :=
  match number? value with
  | some number => .ok number
  | none => .error (.noNumber setting value)

/-- The path that a setting is given. -/
def checkPath (value : String) : Except Misuse String :=
  if value.toList.contains '\x00' then .error .noPath else .ok value

/-- The arguments with a setting given a value. -/
def put (arguments : Arguments) (choice : Choice) : Except Misuse Arguments :=
  let (setting, value) := choice
  match setting with
  | .project => (checkPath value).map fun project => { arguments with project }
  | .config => (checkPath value).map fun config => { arguments with config := some config }
  | .json => .ok { arguments with asJson := true }
  | .byteCode => .ok { arguments with byteCode := true }
  | .output => (checkPath value).map fun output => { arguments with output }
  | .line => (checkNumber setting value).map fun line => { arguments with line }
  | .column => (checkNumber setting value).map fun column => { arguments with column }
  | .target =>
    match targets.find? fun entry => entry.1 == value with
    | some (_, family) => .ok { arguments with target := some family }
    | none => .error (.noChoice setting value (targets.map Prod.fst))
  | .debugInfo => .ok { arguments with debugInfo := true }
  | .help => .ok { arguments with help := true }
  | .version => .ok arguments
  | .noColor => .ok arguments

/-- The arguments with several settings given values, in order. -/
def putAll (arguments : Arguments) : List Choice → Except Misuse Arguments
  | [] => .ok arguments
  | choice :: rest =>
    match arguments.put choice with
    | .ok arguments => putAll arguments rest
    | .error misuse => .error misuse

/-- The arguments that the words of a command line give to a command. Help that is asked for goes
before all that is wrong with values, and values before what is missing or too much. -/
def ofWords (command : Command) (words : List String) : Except Misuse Arguments :=
  match parse command.settings false words with
  | .error misuse => .error misuse
  | .ok (choices, surplus) =>
    let choices := settle choices
    let given := choices.map Prod.fst
    if given.contains .help then .ok { default with help := true }
    else
      match putAll default choices with
      | .error misuse => .error misuse
      | .ok arguments =>
        match command.settings.find? fun setting =>
            setting.isRequired && !given.contains setting with
        | some setting => .error (.missing setting)
        | none => if surplus.isEmpty then .ok arguments else .error (.surplus surplus)

end Arguments

end Multitarget
