import ClauseQuery.Query.Session

/-! # Calls on a query, one after the other -/

namespace ClauseQuery

inductive Slot
  | strict | fields | excluded | conditions | sortTexts | limit | offset | search
  deriving DecidableEq

inductive Call
  | select (fields : List Value)
  | addFields (fields : List Value)
  | exclude (fields : List Value)
  | startWhere (condition : Value)
  | andWhere (condition : Value)
  | orWhere (condition : Value)
  | appendEntry (e : Entry)
  | replaceEntries (es : List Entry)
  | sort (field : Value) (direction : Value := Direction.asc)
  | limit (n : Value)
  | offset (n : Value)
  | search (term : Value)
  | clear
  | enableStrict (enabled : Value := .flag true)
  | condition (field value : Value) (comparison : Value := Comparison.eq)
  | conditions
  | build
  | display
  | summary
  | read (slot : Slot)

inductive Reply
  | done
  | absent
  | flag (b : Bool)
  | integer (n : Int)
  | text (s : String)
  | texts (items : List String)
  | entries (items : List Entry)
  deriving DecidableEq

def Query.read (q : Query) : Slot → Reply
  | .strict => .flag q.strict
  | .fields => .texts q.fields
  | .excluded => .texts q.excluded
  | .conditions => .entries q.chain.entries
  | .sortTexts => .texts q.sortTexts
  | .limit => (q.limit.map .integer).getD .absent
  | .offset => (q.offset.map .integer).getD .absent
  | .search => (q.search.map .text).getD .absent

namespace Call

def exec : Call → QueryM Reply
  | select fields => do QueryM.select fields; return .done
  | addFields fields => do QueryM.addFields fields; return .done
  | exclude fields => do QueryM.exclude fields; return .done
  | startWhere v => do QueryM.startWhere v; return .done
  | andWhere v => do QueryM.andWhere v; return .done
  | orWhere v => do QueryM.orWhere v; return .done
  | appendEntry e => do QueryM.appendEntry e; return .absent
  | replaceEntries es => do QueryM.replaceEntries es; return .absent
  | sort field direction => do QueryM.sort field direction; return .done
  | limit n => do QueryM.limit n; return .done
  | offset n => do QueryM.offset n; return .done
  | search term => do QueryM.search term; return .done
  | clear => do QueryM.clear; return .done
  | enableStrict enabled => do QueryM.enableStrict enabled; return .done
  | condition field v comparison => return .text (← QueryM.condition field v comparison)
  | conditions => return ((← QueryM.conditions).map .text).getD .absent
  | build => return .text (← QueryM.build)
  | display => return .text (← QueryM.display)
  | summary => return .text (← QueryM.summary)
  | read slot => return (← QueryM.query).read slot

structure Outcome where
  reply : Except Fault Reply
  log : List LogRecord
  query : Query

def outcome (call : Call) (q : Query) : Outcome :=
  let (reply, s) := call.exec.run ⟨q, []⟩
  ⟨reply, s.log, s.query⟩

end Call

def Query.step (q : Query) (call : Call) : Query := (call.outcome q).query

/-- Refused calls change nothing, and the rest of the calls follow. -/
def Query.run (q : Query) (calls : List Call) : Query := calls.foldl step q

def Query.trace (q : Query) : List Call → List Call.Outcome
  | [] => []
  | call :: calls => call.outcome q :: (q.step call).trace calls

end ClauseQuery
