import ClauseQuery.Decimal.Binary64
import ClauseQuery.Vocabulary

/-! # Values that a caller may hand over -/

namespace ClauseQuery

/-- A text, or a member standing for its token. -/
inductive Word
  | plain (s : String)
  | member (m : Member)
  deriving DecidableEq

namespace Word

def token : Word → String
  | plain s => s
  | member m => m.token

def display : Word → String
  | plain s => s
  | member m => m.fullName

end Word

inductive Value
  | null
  | flag (b : Bool)
  | integer (n : Int)
  | real (x : Binary64)
  | word (w : Word)
  | bytes (b : List UInt8)
  | list (xs : List Value)
  | tuple (xs : List Value)
  | mapping (entries : List (String × Value))
  | object (truthy : Bool)

instance : Coe Word Value := ⟨.word⟩
instance : Coe String Value := ⟨fun s => .word (.plain s)⟩
instance : Coe Member Value := ⟨fun m => .word (.member m)⟩
instance : Coe Comparison Value := ⟨fun c => .word (.member (.comparison c))⟩
instance : Coe Direction Value := ⟨fun d => .word (.member (.direction d))⟩
instance : Coe Int Value := ⟨.integer⟩
instance : OfNat Value n := ⟨.integer n⟩

namespace Value

def texts (items : List String) : List Value := items.map fun s => .word (.plain s)

def isScalar : Value → Bool
  | flag _ | integer _ | real _ | word _ => true
  | _ => false

def isTruthy : Value → Bool
  | null => false
  | flag b => b
  | integer n => n != 0
  | real x => !x.isZero
  | word w => !w.token.isEmpty
  | bytes b => !b.isEmpty
  | list xs | tuple xs => !xs.isEmpty
  | mapping entries => !entries.isEmpty
  | object b => b

/-- A later entry for a key replaces the value of the earlier one, in its place. -/
def putEntry (entries : List (String × Value)) (key : String) (v : Value) :
    List (String × Value) :=
  if entries.any (·.1 == key) then
    entries.map fun e => if e.1 == key then (key, v) else e
  else entries ++ [(key, v)]

def ofEntries (entries : List (String × Value)) : Value :=
  .mapping (entries.foldl (fun m e => putEntry m e.1 e.2) [])

/-- What iteration gives: the characters of a text, the codes of bytes, the keys of a mapping. -/
def elements? : Value → Option (List Value)
  | word w => some (w.token.toList.map fun c => .word (.plain (String.singleton c)))
  | bytes b => some (b.map fun x => .integer x.toNat)
  | list xs | tuple xs => some xs
  | mapping entries => some (entries.map fun e => .word (.plain e.1))
  | _ => none

end Value

end ClauseQuery
