import SiteBuild.Log.Template

/-!
# Logging

The log of the builder: a level below which records are dropped, the template of a line, and what
was written. The first set-up fixes level and template, later ones change nothing. A log that was
never set up writes the bare text of warnings and of what is graver.
-/
namespace SiteBuild

/-- The log. -/
structure Log where
  /-- The level set, zero before the first set-up. -/
  level : Int
  /-- The template of a line, once set up. -/
  template : Option (List Log.Piece)
  /-- What was written, line by line. -/
  written : List Text
  deriving Repr

namespace Log

/-- The log before the first set-up. -/
def fresh : Log := ⟨0, none, []⟩

/-- The name of the log. -/
def name : Text := "pagesmith"

/-- The template that is used if none is given. -/
def defaultTemplate : Text := "[pagesmith:bundler] %(levelname)s: %(message)s"

/-- The level that is used if none is given. -/
def defaultLevel : Int := 20

/-- The level of warnings, which a log without a level writes. -/
def warningLevel : Int := 30

/-- The name of a level. -/
def levelName (level : Int) : Text :=
  if level = 10 then "DEBUG"
  else if level = 20 then "INFO"
  else if level = 30 then "WARNING"
  else if level = 40 then "ERROR"
  else if level = 50 then "CRITICAL"
  else "Level " ++ Text.ofInt level

/-- Set up the log; a log that is set up stays as it is. An empty template is the bare message.
Nothing is returned for a template that is refused. -/
def setUp? (log : Log) (level : Int) (template : Text) : Option Log :=
  match log.template with
  | some _ => some log
  | none =>
    let pieces? := piecesOf? (if template.isEmpty then "%(message)s" else template)
    pieces?.map fun pieces => { log with level := level, template := some pieces }

/-- The message about a template that is refused. -/
def badTemplateMessage (template : Text) : Text :=
  "Invalid format '" ++ template ++ "' for '%' style"

/-- The value of a field of a record. -/
def fieldValue? (level : Int) (message : Text) (field : Text) : Option Value :=
  let values : List (Text × Value) := [
    ("message", .text message), ("msg", .text message), ("args", .other "()"),
    ("levelname", .text (levelName level)), ("levelno", .number level), ("name", .text name),
    ("exc_info", .other "None"), ("exc_text", .other "None"), ("stack_info", .other "None"),
    ("threadName", .text "MainThread"), ("processName", .text "MainProcess")]
  values.lookup field

/-- A record as a whole, up to where it tells the place in the program that it comes from. -/
def recordText (level : Int) (message : Text) : Text :=
  "\x7b'name': " ++ Text.quoted name ++ ", 'msg': " ++ Text.quoted message ++
    ", 'args': (), 'levelname': " ++ Text.quoted (levelName level) ++ ", 'levelno': " ++
    Text.ofInt level ++ ", 'pathname': '"

/-- The values of a record. -/
def valuesOf (level : Int) (message : Text) : Values :=
  { record := .other (recordText level message), field? := fieldValue? level message }

/-- The least level that is written. -/
def leastLevel (log : Log) : Int := if log.level = 0 then warningLevel else log.level

/-- Write a record. -/
def record (log : Log) (level : Int) (message : Text) : Log :=
  if level ≤ 0 ∨ level < log.leastLevel then log
  else
    let line? : Option Text :=
      match log.template with
      | some pieces => lineOf? (valuesOf level message) pieces
      | none => some message
    let ended (line : Text) : Text := line ++ "\n"
    { log with written := log.written ++ (line?.map ended).toList }

/-- The number of outputs attached to the log. -/
def handlers (log : Log) : Nat := if log.template.isSome then 1 else 0

/-- Whether records are handed on to the log above. -/
def propagates (log : Log) : Bool := log.template.isNone

/-- All that was written. -/
def output (log : Log) : Text := log.written.flatten

end Log
end SiteBuild
