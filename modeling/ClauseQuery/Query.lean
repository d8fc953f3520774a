import ClauseQuery.Chain
import ClauseQuery.Text.Quoted
import ClauseQuery.Value.Display

/-! # Queries, their defaults and their text -/

namespace ClauseQuery

/-! ## Defaults -/

structure Settings where
  strict : Bool := false
  deriving DecidableEq

namespace Settings

def strictVariable : String := "APICALYPSE_STRICT_MODE"

def trueWords : List String := ["1", "true", "yes", "on"]

def falseWords : List String := ["0", "false", "no", "off"]

def parseFlag (text variableName : String) : Except Fault Bool :=
  let word := lower (trim text)
  if word ∈ trueWords then pure true
  else if word ∈ falseWords then pure false
  else throw (.notAFlag text variableName)

/-- A variable that is not set, or set to nothing, gives the defaults. -/
def ofEnvironment (environment : String → Option String)
    (variableName : String := strictVariable) : Except Fault Settings :=
  match environment variableName with
  | none | some "" => pure {}
  | some text => do return { strict := ← parseFlag text variableName }

end Settings

/-! ## Clauses -/

structure SortKey where
  field : String
  direction : Direction
  deriving DecidableEq

def SortKey.text (k : SortKey) : String := k.field ++ " " ++ k.direction.token

structure Query where
  strict : Bool := false
  fields : List String := []
  excluded : List String := []
  chain : Chain := .empty
  sortTexts : List String := []
  limit : Option Int := none
  offset : Option Int := none
  search : Option String := none

namespace Query

/-- A strictness that is given counts by its truth, one that is not by the settings. -/
def new (strict : Value := .null) (settings : Settings := {}) : Query :=
  match strict with
  | .null => { strict := settings.strict }
  | v => { strict := v.isTruthy }

def cleared (q : Query) : Query := { strict := q.strict }

/-! ## The text of a query -/

def listClause (keyword : String) : List String → Option String
  | [] => none
  | items => some (keyword ++ " " ++ ",".intercalate items ++ ";")

def numberClause (keyword : String) : Option Int → Except Fault (Option String)
  | none => pure none
  | some n => do return some (keyword ++ " " ++ (← integerText n) ++ ";")

def searchClause : Option String → Option String
  | none | some "" => none
  | some term => some ("search " ++ quote term ++ ";")

def clauses (q : Query) : Except Fault (List (Option String)) := do
  let conditions ← q.chain.render
  let limit ← numberClause "limit" q.limit
  let offset ← numberClause "offset" q.offset
  return [listClause "fields" q.fields, listClause "exclude" q.excluded, conditions,
    listClause "sort" q.sortTexts, limit, offset, searchClause q.search]

def build (q : Query) : Except Fault String := do
  return " ".intercalate ((← q.clauses).filterMap id)

/-! ## A summary for logs and consoles -/

def numberText : Option Int → Except Fault String
  | none => pure "None"
  | some n => integerText n

def summary (q : Query) : Except Fault String := do
  let limit ← numberText q.limit
  let offset ← numberText q.offset
  return "<QueryBuilder fields=" ++ toString q.fields.length ++
    " exclude=" ++ toString q.excluded.length ++
    " conditions=" ++ toString q.chain.length ++
    " sort=" ++ toString q.sortTexts.length ++
    " limit=" ++ limit ++
    " offset=" ++ offset ++
    " strict=" ++ (if q.strict then "True" else "False") ++ ">"

end Query

end ClauseQuery
