import ClauseQuery.Fault
import ClauseQuery.Text.Blank
import ClauseQuery.Text.Lower

/-! # Checks of single arguments -/

namespace ClauseQuery

def isBlankText (s : String) : Bool := (trim s).isEmpty

namespace Check

def nonBlank (v : Value) (param : String := "value") : Except Fault String :=
  match v with
  | .word w => if isBlankText w.token then throw (.blankText param) else pure (trim w.token)
  | _ => throw (.notText param)

/-- A flag is no integer here. -/
def integer (v : Value) (param : String := "value") : Except Fault Int :=
  match v with
  | .integer n => pure n
  | _ => throw (.notInteger param)

def positive (v : Value) (param : String := "value") : Except Fault Int := do
  let n ← integer v param
  if n ≤ 0 then throw (.notPositive param)
  return n

def nonNegative (v : Value) (param : String := "value") : Except Fault Int := do
  let n ← integer v param
  if n < 0 then throw (.negative param)
  return n

def segments (path : String) : List String := (path.toList.splitOn '.').map String.ofList

def dottedPath (v : Value) (param : String := "field") : Except Fault String := do
  let path ← nonBlank v param
  if (segments path).any isBlankText then throw (.blankSegment path param)
  return path

/-- The first option whose spelling is `w` up to case and the blanks around `w`. -/
def choose (spelling : α → String) (options : List α) (w : Word) (param : String := "value") :
    Except Fault α :=
  match options.find? fun o => lower (spelling o) == lower (trim w.token) with
  | some o => pure o
  | none => throw (.notAnOption (options.map spelling) param)

end Check

/-! ## Members by token or name -/

def spellings (α : Type) [Vocabulary α] : List (String × α) :=
  (Vocabulary.members.map fun m : α => (Vocabulary.token m, m)) ++
    Vocabulary.members.map fun m : α => (Vocabulary.name m, m)

def resolveWord (α : Type) [Vocabulary α] (w : Word) (param : String) : Except Fault α :=
  match (Vocabulary.members : List α).find? fun m => Vocabulary.token m == w.token with
  | some m => pure m
  | none => (·.2) <$> Check.choose Prod.fst (spellings α) w param

def resolve (α : Type) [Vocabulary α] (v : Value) (param : String := "operator") :
    Except Fault α :=
  match v with
  | .word (.plain s) => resolveWord α (.plain s) param
  | .word (.member m) =>
    match Vocabulary.ofMember? m with
    | some a => pure a
    | none => resolveWord α (.member m) param
  | _ => throw (.notAMember (Vocabulary.title α) param)

end ClauseQuery
