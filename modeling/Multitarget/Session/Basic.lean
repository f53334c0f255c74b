import Multitarget.Domain.Fault
import Multitarget.Session.Event

/-!
# Sessions

The state that operations share: the files, the version in effect, the number of
the next scratch context, and all events so far. An action may end with a fault;
what it did until then stays.
-/

namespace Multitarget

/-- The state that operations share. -/
structure Session where
  files : FileTree
  /-- The directory that relative paths start from. -/
  working : Location
  /-- The directory for scratch directories that are given no other. -/
  temporary : FilePath
  version : Option Version
  nextContext : ContextId
  /-- Events in the order in which they happened. -/
  trace : List Event

/-- An operation on a session. -/
abbrev Action := ExceptT Fault (StateM Session)

namespace Action

variable {α : Type}

/-- Notes an event. -/
def emit (event : Event) : Action Unit :=
  modify fun session => { session with trace := session.trace ++ [event] }

/-- Notes a log record. -/
def log (level : Log.Level) (event : String) (fields : List (String × Json.Document)) :
    Action Unit :=
  emit (.logged ⟨level, event, fields⟩)

/-- Notes log records. -/
def logAll : List Log.Record → Action Unit
  | [] => return
  | record :: rest => do
    emit (.logged record)
    logAll rest

/-- Notes a failure in the log, with details that are kept from the user. -/
def logFailure (failure : Failure) : Action Unit :=
  log .error "kompile_error" [("error_type", .text failure.kind),
    ("user_message", .text failure.message)]

/-- Ends with a failure. -/
def fail (failure : Failure) : Action α := throw (.failure failure)

/-- Ends with a failure that is noted in the log. -/
def failLogged (failure : Failure) : Action α := do
  logFailure failure
  fail failure

/-- Runs an action and gives its end, whatever it is. -/
def observe (action : Action α) : Action (Except Fault α) := fun session =>
  let (ending, session) := action session
  (.ok ending, session)

/-- Ends as an action was observed to end. -/
def resume : Except Fault α → Action α
  | .ok value => return value
  | .error fault => throw fault

/-- Runs an action and, whatever its end, another after it. -/
def andFinally (action : Action α) (after : Action Unit) : Action α := do
  let ending ← observe action
  after
  resume ending

/-- Uses the files of the session. -/
def onFiles (action : Location → FileAction α) : Action α := fun session =>
  let (ending, files) := action session.working session.files
  let session := { session with files }
  match ending with
  | .ok value => (.ok value, session)
  | .error fault => (.error (.file fault), session)

/-- Whether a path leads to an entry. -/
def fileExists (path : FilePath) : Action Bool :=
  onFiles fun working => FileTree.exists working path

/-- The content of a file. -/
def readFile (path : FilePath) : Action Text.Bytes :=
  onFiles fun working => FileTree.readFile working path

/-- Makes sure of a directory and those that lead to it. -/
def prepareDirectory (path : FilePath) : Action Unit := do
  emit (.prepared path)
  onFiles fun working => FileTree.ensureDirectories working path

/-- Writes a file. -/
def storeFile (path : FilePath) (content : Text.Bytes) : Action Unit := do
  emit (.stored path)
  onFiles fun working => FileTree.writeFile working path content

end Action

end Multitarget
