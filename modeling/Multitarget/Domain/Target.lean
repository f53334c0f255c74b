/-!
# Targets

What a project is compiled for. Every target belongs to one family of
backends; a target of the WebAssembly family also selects a runtime variant.
-/

namespace Multitarget

/-- A platform that a project can be compiled for. -/
inductive Target where
  | java
  | junit
  | canvas
  | js
  | jsIr
  | wasm
  | composeWasm
  deriving DecidableEq, Repr

/-- A family of backends. -/
inductive Family where
  | jvm
  | js
  | wasm
  deriving DecidableEq, Repr

/-- The runtime that a WebAssembly module is linked against. -/
inductive Variant where
  | plain
  | compose
  deriving DecidableEq, Repr

/-- The name of a family. -/
def Family.name : Family → String
  | .jvm => "jvm"
  | .js => "js-ir"
  | .wasm => "wasm"

/-- All families. -/
def Family.all : List Family := [.jvm, .js, .wasm]

/-- The family with a name. -/
def Family.ofName? (name : String) : Option Family :=
  Family.all.find? fun family => family.name == name

/-- The name of a variant. -/
def Variant.name : Variant → String
  | .plain => "plain"
  | .compose => "compose"

namespace Target

/-- All targets. -/
def all : List Target := [.java, .junit, .canvas, .js, .jsIr, .wasm, .composeWasm]

/-- The name of a target. -/
def name : Target → String
  | .java => "java"
  | .junit => "junit"
  | .canvas => "canvas"
  | .js => "js"
  | .jsIr => "js-ir"
  | .wasm => "wasm"
  | .composeWasm => "compose-wasm"

/-- The target with a name. -/
def ofName? (name : String) : Option Target :=
  all.find? fun target => target.name == name

/-- The family whose backend serves a target. -/
def family : Target → Family
  | .java => .jvm
  | .junit => .jvm
  | .canvas => .js
  | .js => .js
  | .jsIr => .js
  | .wasm => .wasm
  | .composeWasm => .wasm

/-- The variant that a WebAssembly target selects. -/
def variant? : Target → Option Variant
  | .wasm => some .plain
  | .composeWasm => some .compose
  | _ => none

end Target

/-- A table of targets and the families that serve them. -/
abbrev Routes := List (Target × Family)

namespace Routes

/-- The table that serves every target. -/
def standard : Routes := Target.all.map fun target => (target, target.family)

/-- The family that the table gives a target. -/
def family? (routes : Routes) (target : Target) : Option Family :=
  (routes.find? fun entry => entry.1 == target).map Prod.snd

/-- The targets that the table does not serve. -/
def missing (routes : Routes) : List Target :=
  Target.all.filter fun target => (routes.family? target).isNone

theorem standard_family? (target : Target) : standard.family? target = some target.family := by
  cases target <;> rfl

end Routes

end Multitarget
