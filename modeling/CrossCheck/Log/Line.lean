import CrossCheck.Json.Writer
import CrossCheck.Log.Event
import CrossCheck.Text.Case

/-!
Events as lines of a log.  A log keeps the events from one level on and shows them either as
columns for a reader or as JSON objects.
-/

namespace CrossCheck

namespace Level

def ofName? (name : String) : Option Level := all.find? fun l => l.name = name

/-- The gravity from which on a log keeps events.  A name that is none means warnings. -/
def threshold (name : String) : Nat :=
  let name := Text.upper name
  if name = "NOTSET" then 0
  else if name = "DEBUG" then debug.gravity
  else if name = "INFO" then info.gravity
  else if name = "ERROR" then error.gravity
  else if name = "CRITICAL" || name = "FATAL" then critical.gravity
  else warning.gravity

end Level

namespace Event

/-- Whether a log of that level keeps an event. -/
def isKept (level : String) (e : Event) : Bool := Level.threshold level ≤ e.level.gravity

/-- Members that every line has; the context cannot replace them. -/
def ownMembers : List String := ["level", "event", "timestamp"]

def members (e : Event) : Record := e.context.filter fun m => !ownMembers.contains m.1

mutual

/-- What an object shows of a value: a text in place of anything that JSON does not have. -/
def objectValue : Value → Value
  | .list vs => .list (objectValues vs)
  | .record ms => .record (objectMembers ms)
  | .decimal d => .text (String.ofList (Value.decimal d).shown)
  | .date d => .text (String.ofList (Value.date d).shown)
  | .time t => .text (String.ofList (Value.time t).shown)
  | .timestamp t => .text (String.ofList (Value.timestamp t).shown)
  | .bytes bs => .text (String.ofList (Value.bytes bs).shown)
  | v => v

def objectValues : List Value → List Value
  | [] => []
  | v :: vs => objectValue v :: objectValues vs

def objectMembers : List (String × Value) → List (String × Value)
  | [] => []
  | (name, v) :: ms => (name, objectValue v) :: objectMembers ms

end

/-- An event as one object. -/
def record (e : Event) : Record :=
  objectMembers e.members ++ [("event", .text e.name), ("level", .text e.level.name)]

/-- Characters that make a text stand between quotes. -/
def needsQuotes (s : String) : Bool :=
  s.toList.any fun c => " \t=\r\n\"'".toList.contains c

def shownValue : Value → List Char
  | .text s => if needsQuotes s then Text.quoted s.toList else s.toList
  | v => v.shown

def shownMember (m : String × Value) : List Char := m.1.toList ++ '=' :: shownValue m.2

/-- Members that say who reported the event.  They stand right after its name. -/
def reporterMembers : List String := ["logger", "logger_name"]

def reporters (e : Event) : List (List Char) :=
  reporterMembers.filterMap fun name =>
    (e.members.get? name).map fun v => '[' :: v.display.toList ++ [']']

/-- Members that say where an event comes from, over several lines. -/
def traceMembers : List String := ["stack", "exception"]

/-- A member that only says whether an exception is to be shown. -/
def exceptionFlag : String := "exc_info"

/-- A trace that an event has. -/
def trace (e : Event) (name : String) : Value := (e.members.get? name).getD .null

/-- Whether traces are texts. -/
def hasTextTraces (e : Event) : Bool :=
  traceMembers.all fun name => match e.trace name with
    | .null | .text _ => true
    | _ => false

def sortedMembers (e : Event) : Record :=
  let others := reporterMembers ++ traceMembers ++ [exceptionFlag]
  (e.members.filter fun m => !others.contains m.1).mergeSort fun a b => !(b.1 < a.1)

/-- What stands between the two traces of an event. -/
def traceRule : List Char := List.replicate 79 '='

/-- The traces of an event, each on lines of its own. -/
def traces (e : Event) : List Char :=
  let failed := ((e.members.get? exceptionFlag).getD .null).isTruthy
  let exception := match e.trace "exception" with
    | .text s => '\n' :: s.toList
    | _ => []
  match e.trace "stack" with
  | .text s =>
    let rule := if failed || !exception.isEmpty then '\n' :: '\n' :: traceRule ++ ['\n'] else []
    '\n' :: s.toList ++ rule ++ exception
  | _ => exception

/-- The level, the name, and what belongs to it in the order of names.  Without members nothing
fills the column of the name. -/
def headLine (e : Event) : List Char :=
  let level := '[' :: Text.padRight 9 e.level.name.toList ++ [']']
  let head := level ++ ' ' :: Text.padRight 30 e.name.toList
  let line := Text.joinWith [' '] (head :: e.reporters ++ e.sortedMembers.map shownMember)
  (line.reverse.dropWhile (· = ' ')).reverse

/-- An event as it is shown to a reader. -/
def columns (e : Event) : List String :=
  (Text.lines (e.headLine ++ e.traces ++ ['\n'])).map String.ofList

def jsonLine (e : Event) : String := Json.writeLine (.record e.record)

/-- The lines of a log. -/
def lines (level : String) (json : Bool) (events : List Event) : List String :=
  (events.filter (isKept level)).flatMap fun e => if json then [e.jsonLine] else e.columns

end Event
end CrossCheck
