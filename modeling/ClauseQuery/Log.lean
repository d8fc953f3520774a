import ClauseQuery.Value.Display

/-! # Log records and the logger's set-up -/

namespace ClauseQuery

inductive Severity
  | debug | error
  deriving DecidableEq

def Severity.title : Severity → String
  | debug => "DEBUG"
  | error => "ERROR"

structure LogRecord where
  severity : Severity
  logger : String
  message : String
  withFault : Bool
  deriving DecidableEq

def rootLogger : String := "apicalypse"

def childLogger (name : String) : String := rootLogger ++ "." ++ name

structure Logger where
  level : Int
  handlers : List String
  deriving DecidableEq

def Logger.bare : Logger := ⟨0, []⟩

def recordLayout : String := "%(asctime)s | %(levelname)s | %(name)s | %(message)s"

def levelNumber? : String → Option Int
  | "CRITICAL" | "FATAL" => some 50
  | "ERROR" => some 40
  | "WARN" | "WARNING" => some 30
  | "INFO" => some 20
  | "DEBUG" => some 10
  | "NOTSET" => some 0
  | _ => none

abbrev SetupM := ExceptT Fault (StateM Logger)

namespace SetupM

def attachHandler : SetupM Unit :=
  modify fun l => if l.handlers.isEmpty then { l with handlers := [recordLayout] } else l

def setLevel (level : Value) : SetupM Unit :=
  match level with
  | .null => pure ()
  | .flag b => modify fun l => { l with level := if b then 1 else 0 }
  | .integer n => modify fun l => { l with level := n }
  | .word (.plain name) =>
    match levelNumber? name with
    | some n => modify fun l => { l with level := n }
    | none => throw (.unknownLevel name)
  | v => do throw (.notALevel (← liftExcept v.inspect))

def configure (level : Value := .null) : SetupM String := do
  attachHandler
  setLevel level
  return rootLogger

def child (name : Value) : SetupM String := do return childLogger (← liftExcept name.display)

end SetupM

inductive SetupCall
  | configure (level : Value := .null)
  | child (name : Value)

def SetupCall.exec : SetupCall → SetupM String
  | configure level => SetupM.configure level
  | child name => SetupM.child name

def Logger.step (l : Logger) (call : SetupCall) : Logger := (call.exec.run l).2

def Logger.run (l : Logger) (calls : List SetupCall) : Logger := calls.foldl step l

end ClauseQuery
