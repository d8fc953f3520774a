import ClauseQuery.Decimal.Layout
import ClauseQuery.Text.Inspected
import ClauseQuery.Value

/-! # Faults, one for each cause of a refusal -/

namespace ClauseQuery

inductive Fault
  | notText (param : String)
  | blankText (param : String)
  | notInteger (param : String)
  | notPositive (param : String)
  | negative (param : String)
  | blankSegment (path param : String)
  | notAnOption (options : List String) (param : String)
  | notAMember (title param : String)
  | noFields
  | blankField
  | notScalar (c : Comparison)
  | blankOperand (c : Comparison)
  | notAnArray (c : Comparison)
  | elementNotScalar (index : Nat) (c : Comparison)
  | notFinite (x : Binary64)
  | notAFlag (text variableName : String)
  | alreadyStarted
  | orFirst
  | strayLink (mark : String)
  | tooManyDigits
  | unknownLevel (name : String)
  | notALevel (shown : String)
  | notIterable (v : Value)
  | notMultipliable (v : Value)
  | countTooLarge
  | textTooLong
  | bytesTooLong
  | noFiniteReal
  | outOfMemory

inductive FaultKind
  | invalid | state | value | type | overflow | memory
  deriving DecidableEq

def Value.typeName : Value → String
  | null => "NoneType"
  | flag _ => "bool"
  | integer _ => "int"
  | real _ => "float"
  | word (.plain _) => "str"
  | word (.member m) => m.title
  | bytes _ => "bytes"
  | list _ => "list"
  | tuple _ => "tuple"
  | mapping _ => "dict"
  | object _ => "object"

def FaultKind.title : FaultKind → String
  | invalid => "ValidationError"
  | state => "StateError"
  | value => "ValueError"
  | type => "TypeError"
  | overflow => "OverflowError"
  | memory => "MemoryError"

/-- The most decimal digits that an integer is written with. -/
def mostDigits : Nat := 4300

def commaSeparated (parts : List String) : String := ", ".intercalate parts

namespace Fault

def kind : Fault → FaultKind
  | alreadyStarted | orFirst | strayLink _ => .state
  | tooManyDigits | unknownLevel _ => .value
  | notALevel _ | notIterable _ | notMultipliable _ => .type
  | countTooLarge | textTooLong | bytesTooLong | noFiniteReal => .overflow
  | outOfMemory => .memory
  | _ => .invalid

def param : Fault → Option String
  | notText p | blankText p | notInteger p | notPositive p | negative p | blankSegment _ p
  | notAnOption _ p | notAMember _ p | notAFlag _ p => some p
  | noFields => some "fields"
  | blankField => some "field"
  | notScalar _ | blankOperand _ | notAnArray _ | elementNotScalar _ _ | notFinite _ =>
    some "value"
  | _ => none

def message : Fault → String
  | notText p => p ++ " must be a string."
  | blankText p => p ++ " cannot be empty or whitespace."
  | notInteger p => p ++ " must be an integer."
  | notPositive p => p ++ " must be positive."
  | negative p => p ++ " must be zero or positive."
  | blankSegment path _ => "segment in '" ++ path ++ "' cannot be empty or whitespace."
  | notAnOption options p => p ++ " must be one of: " ++ commaSeparated options
  | notAMember title p => p ++ " must be a " ++ title ++ " or its string token."
  | noFields => "fields cannot be empty"
  | blankField => "Field cannot be empty"
  | notScalar c => "Value for operator '" ++ c.token ++ "' must be scalar type."
  | blankOperand c => "Value for operator '" ++ c.token ++ "' cannot be empty."
  | notAnArray c => "Value must be a non-empty array for operator '" ++ c.token ++ "'."
  | elementNotScalar i c =>
    "Element " ++ toString i ++ " for operator '" ++ c.token ++ "' must be scalar."
  | notFinite x => "Float value '" ++ x.compact ++ "' is not a finite number."
  | notAFlag text name => "Invalid boolean value '" ++ text ++ "' for " ++ name ++ "."
  | alreadyStarted => "Initial where condition is already set."
  | orFirst => "Cannot start conditions with OR."
  | strayLink mark => "Unexpected operator '" ++ mark ++ "' in conditions."
  | tooManyDigits =>
    "Exceeds the limit (" ++ toString mostDigits ++ " digits) for integer string conversion; " ++
      "use sys.set_int_max_str_digits() to increase the limit"
  | unknownLevel name => "Unknown level: " ++ inspectText name
  | notALevel shown => "Level not an integer or a valid string: " ++ shown
  | notIterable v => "'" ++ v.typeName ++ "' object is not iterable"
  | notMultipliable v => "unsupported operand type(s) for *: '" ++ v.typeName ++ "' and 'int'"
  | countTooLarge => "cannot fit 'int' into an index-sized integer"
  | textTooLong => "repeated string is too long"
  | bytesTooLong => "repeated bytes are too long"
  | noFiniteReal => "int too large to convert to float"
  | outOfMemory => ""

end Fault

end ClauseQuery
