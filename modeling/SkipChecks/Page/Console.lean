import SkipChecks.Page.Failure
import SkipChecks.Page.Noise

/-!
# Console messages

What a page writes to its console is captured in buffers. Handles give access to buffers, and
several handles may share one: what one of them records or clears shows through all of them.
-/

namespace SkipChecks

/-- How grave a message is. -/
inductive Level
  | log
  | info
  | warning
  | error
  | debug
  | other
  deriving DecidableEq, Repr

structure Message where
  level : Level
  text : Text
  /-- When it was captured, in nanoseconds from a fixed moment. -/
  timestamp : Int
  /-- Where it comes from, if that is known. -/
  source : Option Text
  deriving DecidableEq, Repr

/-- A message as it is captured, before anything is known of where it comes from. -/
def Message.ofText (level : Level) (text : Text) (now : Int) : Message := ⟨level, text, now, none⟩

def Message.withSource (message : Message) (source : Text) : Message :=
  { message with source := some source }

/-- The messages captured in a buffer, first ones first. -/
abbrev Capture := List Message

namespace Capture

def errors (capture : Capture) : List Message := capture.filter (·.level = .error)

def errorCount (capture : Capture) : Nat := capture.countP (·.level = .error)

/-- The start of a message about errors. -/
def header : Text := "Expected no JavaScript errors on the page, but found".toList

/-- The message about errors with these texts: a single one in the line of the header, several ones
as a list. -/
def errorsMessage (errors : List Text) : Text :=
  match errors with
  | [error] => header ++ " 1: ".toList ++ error
  | errors => Noise.list (header ++ ' ' :: Text.ofNat errors.length ++ [':']) errors

/-- Checks that there is no error. -/
def checkNoErrors (capture : Capture) : Except PageFailure Unit :=
  match capture.errors with
  | [] => .ok ()
  | errors => .error (.assertion (errorsMessage (errors.map (·.text))))

end Capture

/-- Buffers and the handles that give access to them, both by number. -/
structure Consoles where
  buffers : List Capture
  /-- The buffer of each handle. -/
  handles : List Nat
  deriving DecidableEq, Repr

namespace Consoles

/-- One handle on an empty buffer. -/
def start : Consoles := ⟨[[]], [0]⟩

/-- The buffer that a handle gives access to. -/
def buffer? (consoles : Consoles) (handle : Nat) : Option Capture :=
  consoles.handles[handle]?.bind (consoles.buffers[·]?)

/-- The messages seen through a handle. -/
def messages (consoles : Consoles) (handle : Nat) : Capture := (consoles.buffer? handle).getD []

/-- The error messages seen through a handle. -/
def errors (consoles : Consoles) (handle : Nat) : List Message := (consoles.messages handle).errors

/-- The number of errors in the buffer of a handle. -/
def errorCount (consoles : Consoles) (handle : Nat) : Nat :=
  ((consoles.buffer? handle).map Capture.errorCount).getD 0

/-- The number of messages in the buffer of a handle. -/
def length (consoles : Consoles) (handle : Nat) : Nat :=
  ((consoles.buffer? handle).map List.length).getD 0

def isEmpty (consoles : Consoles) (handle : Nat) : Bool := consoles.length handle == 0

/-- Checks that there is no error among the messages seen through a handle. -/
def checkNoErrors (consoles : Consoles) (handle : Nat) : Except PageFailure Unit :=
  (consoles.messages handle).checkNoErrors

/-- A new handle on a buffer of its own. -/
def create (consoles : Consoles) : Consoles :=
  ⟨consoles.buffers ++ [[]], consoles.handles ++ [consoles.buffers.length]⟩

/-- A new handle on the buffer of another one. -/
def share (consoles : Consoles) (handle : Nat) : Consoles :=
  match consoles.handles[handle]? with
  | some buffer => { consoles with handles := consoles.handles ++ [buffer] }
  | none => consoles

/-- Changes the buffer of a handle. -/
def edit (consoles : Consoles) (handle : Nat) (f : Capture → Capture) : Consoles :=
  match consoles.handles[handle]? with
  | some buffer => { consoles with buffers := consoles.buffers.modify buffer f }
  | none => consoles

/-- Records a message through a handle. -/
def push (consoles : Consoles) (handle : Nat) (message : Message) : Consoles :=
  consoles.edit handle (· ++ [message])

/-- Forgets all messages in the buffer of a handle. -/
def clear (consoles : Consoles) (handle : Nat) : Consoles := consoles.edit handle fun _ => []

example :
    let consoles := (start.share 0).create.push 1 (.ofText .error ['a'] 7)
    consoles.messages 0 = [⟨.error, ['a'], 7, none⟩] ∧ consoles.isEmpty 2 := by
  decide

end Consoles

end SkipChecks
