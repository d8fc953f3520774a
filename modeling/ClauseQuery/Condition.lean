import ClauseQuery.Check
import ClauseQuery.Log
import ClauseQuery.Text.Quoted

/-! # Conditions on a field -/

namespace ClauseQuery

/-- Numbers stand bare, flags as digits, and all else as a string literal. -/
def Value.literal : Value → Except Fault String
  | flag b => pure (if b then "1" else "0")
  | integer n => integerText n
  | real x => if x.isFinite then pure x.plain else throw (.notFinite x)
  | v => do return quote (← v.display)

structure Condition where
  field : String
  comparison : Comparison
  operands : List String

namespace Condition

def checkedField (v : Value) : Except Fault String :=
  match v with
  | .word w => if isBlankText w.token then throw .blankField else pure (trim w.token)
  | _ => throw .blankField

def arrayElements? : Value → Option (List Value)
  | .list [] | .tuple [] => none
  | .list xs | .tuple xs => some xs
  | _ => none

/-- Elements are all looked at before the first is written. -/
def arrayOperands (c : Comparison) (v : Value) : Except Fault (List String) :=
  match arrayElements? v with
  | none => throw (.notAnArray c)
  | some xs =>
    match xs.findIdx? fun x => !x.isScalar with
    | some i => throw (.elementNotScalar i c)
    | none => xs.mapM Value.literal

def isBlankOperand : Value → Bool
  | .word w => isBlankText w.token
  | _ => false

def scalarOperand (c : Comparison) (v : Value) : Except Fault String :=
  if !v.isScalar then throw (.notScalar c)
  else if isBlankOperand v then throw (.blankOperand c)
  else v.literal

def make (field value : Value) (comparison : Value := Comparison.eq) : Except Fault Condition := do
  let field ← checkedField field
  let c ← resolve Comparison comparison
  if c.takesArray then return ⟨field, c, ← arrayOperands c value⟩
  else return ⟨field, c, [← scalarOperand c value]⟩

def text (c : Condition) : String :=
  let operands := ",".intercalate c.operands
  match c.comparison.brackets with
  | some (opening, closing) => c.field ++ " = " ++ opening ++ operands ++ closing
  | none => c.field ++ " " ++ c.comparison.token ++ " " ++ operands

def records (c : Condition) : List LogRecord :=
  if c.comparison.takesArray then
    [⟨.debug, childLogger "query.conditions",
      "Formatted " ++ toString c.operands.length ++ " values for operator '" ++
        c.comparison.token ++ "'", false⟩]
  else []

end Condition

end ClauseQuery
