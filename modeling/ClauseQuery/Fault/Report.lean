import ClauseQuery.Value.Display

/-! # Errors as callers catch and report them -/

namespace ClauseQuery

inductive ErrorFamily
  | general | invalid | state | value | runtime
  deriving DecidableEq

namespace ErrorFamily

def title : ErrorFamily → String
  | general => "ApicalypseError"
  | invalid => FaultKind.invalid.title
  | state => FaultKind.state.title
  | value => FaultKind.value.title
  | runtime => "RuntimeError"

def ancestry : ErrorFamily → List ErrorFamily
  | general => [general]
  | invalid => [general, invalid, value]
  | state => [general, state, runtime]
  | value => [value]
  | runtime => [runtime]

def ofTitle? (s : String) : Option ErrorFamily :=
  [general, invalid, state].find? fun f => f.title == s

end ErrorFamily

structure ErrorReport where
  text : String
  fields : List (String × Value)
  families : List ErrorFamily

def argumentText : List Value → Except Fault String
  | [] => pure ""
  | [v] => v.display
  | vs => (Value.tuple vs).inspect

/-- An invalid-argument error takes a message and perhaps a parameter, and shows the message only. -/
def ErrorFamily.report (f : ErrorFamily) (arguments : List Value) : Except Fault ErrorReport :=
  if f = invalid then do
    let message := arguments.headD .null
    return ⟨← message.display,
      [("error", "VALIDATION_ERROR"), ("message", message), ("param", arguments[1]?.getD .null)],
      f.ancestry⟩
  else do
    let text ← argumentText arguments
    return ⟨text, [("error", f.title), ("message", text)], f.ancestry⟩

end ClauseQuery
