import ClauseQuery.Fault

/-!
# Values as text

An integer with too many digits has none.
-/

namespace ClauseQuery

def isWritable (n : Int) : Bool := (Nat.toDigits 10 n.natAbs).length ≤ mostDigits

def integerText (n : Int) : Except Fault String :=
  if isWritable n then pure (toString n) else throw .tooManyDigits

def listText (parts : List String) : String := "[" ++ commaSeparated parts ++ "]"

/-- One element needs a comma, or the brackets would only group. -/
def tupleText : List String → String
  | [part] => "(" ++ part ++ ",)"
  | parts => "(" ++ commaSeparated parts ++ ")"

def Word.inspect : Word → String
  | plain s => inspectText s
  | member m => "<" ++ m.fullName ++ ": " ++ inspectText m.token ++ ">"

namespace Value

mutual
def inspect : Value → Except Fault String
  | null => pure "None"
  | flag true => pure "True"
  | flag false => pure "False"
  | integer n => integerText n
  | real x => pure x.compact
  | word w => pure w.inspect
  | bytes b => pure (inspectBytes b)
  | list xs => do return listText (← inspectEach xs)
  | tuple xs => do return tupleText (← inspectEach xs)
  | mapping entries => do return "\x7b" ++ commaSeparated (← inspectEntries entries) ++ "\x7d"
  | object _ => pure "<object>"
def inspectEach : List Value → Except Fault (List String)
  | [] => pure []
  | v :: vs => do return (← v.inspect) :: (← inspectEach vs)
def inspectEntries : List (String × Value) → Except Fault (List String)
  | [] => pure []
  | (key, v) :: entries => do
    return (inspectText key ++ ": " ++ (← v.inspect)) :: (← inspectEntries entries)
end

def display : Value → Except Fault String
  | word w => pure w.display
  | v => v.inspect

end Value

end ClauseQuery
