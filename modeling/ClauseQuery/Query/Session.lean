import ClauseQuery.Condition
import ClauseQuery.Query

/-!
# Operations on a query

Each checks all its arguments before it changes anything.
-/

namespace ClauseQuery

structure Session where
  query : Query := {}
  log : List LogRecord := []

abbrev QueryM := ExceptT Fault (StateM Session)

namespace QueryM

def query : QueryM Query := return (← get).query

def update (f : Query → Query) : QueryM Unit := modify fun s => { s with query := f s.query }

def emit (records : List LogRecord) : QueryM Unit :=
  modify fun s => { s with log := s.log ++ records }

def check (r : Except Fault α) : QueryM α := liftExcept r

def logger : String := childLogger "query"

def renew (strict : Value := .null) (settings : Settings := {}) : QueryM Unit :=
  update fun _ => .new strict settings

def enableStrict (enabled : Value := .flag true) : QueryM Unit :=
  update fun q => { q with strict := enabled.isTruthy }

/-! ## Fields -/

def wildcard : String := "*"

def isLoneWildcard : List Value → Bool
  | [.word w] => w.token == wildcard
  | _ => false

def checkedFields (fields : List Value) : Except Fault (List String) :=
  if fields.isEmpty then throw .noFields else fields.mapM fun f => Check.dottedPath f

def selectionRecord (fields : List String) : LogRecord :=
  ⟨.debug, logger, "Selected fields " ++ listText (fields.map inspectText), false⟩

def select (fields : List Value) : QueryM Unit := do
  if isLoneWildcard fields then
    update fun q => { q with fields := [wildcard] }
  else
    let fields ← check (checkedFields fields)
    update fun q => { q with fields }
    emit [selectionRecord fields]

def addFields (fields : List Value) : QueryM Unit := do
  let fields ← check (checkedFields fields)
  update fun q => { q with fields := (q.fields ++ fields).eraseDups }

def exclude (fields : List Value) : QueryM Unit := do
  let fields ← check (checkedFields fields)
  update fun q => { q with excluded := (q.excluded ++ fields).eraseDups }

/-! ## Conditions -/

def condition (field value : Value) (comparison : Value := Comparison.eq) : QueryM String := do
  let c ← check (Condition.make field value comparison)
  emit c.records
  return c.text

def onChain (f : Chain → Except Fault Chain) : QueryM Unit := do
  let chain ← check (f (← query).chain)
  update fun q => { q with chain }

def startWhere (condition : Value) : QueryM Unit := onChain (·.start condition)

def andWhere (condition : Value) : QueryM Unit := onChain (·.and condition)

def orWhere (condition : Value) : QueryM Unit := onChain (·.or condition)

/-! Operations that check nothing -/

def appendEntry (e : Entry) : QueryM Unit := update fun q => { q with chain := q.chain.append e }

def replaceEntries (es : List Entry) : QueryM Unit := update fun q => { q with chain := ⟨es⟩ }

def conditions : QueryM (Option String) := do check (← query).chain.render

/-! ## Sort, limit, offset, search -/

def sort (field : Value) (direction : Value := Direction.asc) : QueryM Unit := do
  let field ← check (Check.nonBlank field "sort field")
  let direction ← check (resolve Direction direction "sort direction")
  update fun q => { q with sortTexts := q.sortTexts ++ [SortKey.text ⟨field, direction⟩] }

def limit (n : Value) : QueryM Unit := do
  let n ← check (Check.positive n "limit")
  update fun q => { q with limit := some n }

def offset (n : Value) : QueryM Unit := do
  let n ← check (Check.nonNegative n "offset")
  update fun q => { q with offset := some n }

def searchRecord (term : String) : LogRecord :=
  ⟨.debug, logger, "Search term set (" ++ toString term.length ++ " chars)", false⟩

def search (term : Value) : QueryM Unit := do
  let term ← check (Check.nonBlank term "search term")
  update fun q => { q with search := some term }
  emit [searchRecord term]

/-! ## Rendering -/

def build : QueryM String := do check (← query).build

def summary : QueryM String := do check (← query).summary

def sentinel : String := "[ERROR] [INVALID __str__ CALL]"

def failureRecord (f : Fault) : LogRecord :=
  ⟨.error, logger, "Error building query: " ++ f.message, true⟩

def display : QueryM String := do
  let q ← query
  match q.build with
  | .ok text => return text
  | .error f =>
    if q.strict then throw f
    emit [failureRecord f]
    return sentinel

def clear : QueryM Unit := update Query.cleared

end QueryM

end ClauseQuery
