/-!
# Commands and settings

The commands of the program, and the settings that each of them takes. A setting
has one or two names; most take a value.
-/

namespace Multitarget

/-- A command. -/
inductive Command where
  | compile
  | complete
  | highlight
  | run
  | test
  | translate
  | version
  deriving DecidableEq, Repr

/-- What a command line can set. -/
inductive Setting where
  | project
  | config
  | json
  | byteCode
  | output
  | line
  | column
  | target
  | debugInfo
  | version
  | noColor
  | help
  deriving DecidableEq, Repr

namespace Setting

/-- The names of a setting, a short one first. -/
def names : Setting → List String
  | .project => ["-p", "--project"]
  | .config => ["-c", "--config"]
  | .json => ["--json"]
  | .byteCode => ["--byte-code"]
  | .output => ["-o", "--output"]
  | .line => ["-l", "--line"]
  | .column => ["--ch"]
  | .target => ["-t", "--target"]
  | .debugInfo => ["--debug-info"]
  | .version => ["--version"]
  | .noColor => ["--no-color"]
  | .help => ["--help"]

/-- Whether a setting takes a value. Every setting with a short name does. -/
def takesValue : Setting → Bool
  | .project => true
  | .config => true
  | .output => true
  | .line => true
  | .column => true
  | .target => true
  | _ => false

/-- Whether a command cannot do without the setting. -/
def isRequired : Setting → Bool
  | .line => true
  | .column => true
  | _ => false

/-- What a setting does. -/
def description : Setting → String
  | .project => "Project file, YAML or JSON [default: ./project.yaml]"
  | .config => "kompile.yaml [default: $KOMPILE_CONFIG, ./kompile.yaml, ./.kompile/kompile.yaml]"
  | .json => "Print the full result as JSON."
  | .byteCode => "Include disassembled bytecode in the result."
  | .output => "Output directory [default: build/classes]"
  | .line => "0-based line"
  | .column => "0-based column"
  | .target => "Translation target [default: derived from the project's confType]"
  | .debugInfo => "Keep the WebAssembly text form (wasm only)."
  | .version => "Show the version and exit."
  | .noColor => "Disable colored output."
  | .help => "Show this message and exit."

/-- The names of a setting in quotes. -/
def hint (setting : Setting) : String :=
  " / ".intercalate (setting.names.map fun name => "'" ++ name ++ "'")

/-- The settings that precede a command. -/
def general : List Setting := [.version, .noColor, .help]

end Setting

namespace Command

/-- The commands in the order of their names. -/
def all : List Command := [.compile, .complete, .highlight, .run, .test, .translate, .version]

/-- The name of a command. -/
def name : Command → String
  | .compile => "compile"
  | .complete => "complete"
  | .highlight => "highlight"
  | .run => "run"
  | .test => "test"
  | .translate => "translate"
  | .version => "version"

/-- The command of a name. -/
def ofName? (name : String) : Option Command :=
  all.find? fun command => command.name == name

/-- The settings of a command. -/
def settings : Command → List Setting
  | .compile => [.project, .config, .output, .help]
  | .complete => [.project, .config, .line, .column, .help]
  | .highlight => [.project, .config, .json, .help]
  | .run => [.project, .config, .json, .byteCode, .help]
  | .test => [.project, .config, .json, .help]
  | .translate => [.project, .config, .json, .target, .debugInfo, .help]
  | .version => [.config, .json, .help]

end Command

end Multitarget
