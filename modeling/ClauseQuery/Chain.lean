import ClauseQuery.Check

/-!
# The chain of conditions

Operations keep each entry after the first joined by a connective, except `append` and what is built by
hand; `render` reports the first entry that nothing joins.
-/

namespace ClauseQuery

inductive Link
  | opening
  | joined (c : Connective)
  | stray (mark : Word)
  deriving DecidableEq

def Link.ofValue? : Value → Option Link
  | .null => some .opening
  | .word (.member (.connective c)) => some (.joined c)
  | .word w => some (.stray w)
  | _ => none

def Link.display : Link → String
  | opening => "None"
  | joined c => c.token
  | stray mark => mark.display

structure Entry where
  link : Link
  text : String
  deriving DecidableEq

structure Chain where
  entries : List Entry
  deriving DecidableEq

namespace Chain

def empty : Chain := ⟨[]⟩

def isEmpty (c : Chain) : Bool := c.entries.isEmpty

def length (c : Chain) : Nat := c.entries.length

def append (c : Chain) (e : Entry) : Chain := ⟨c.entries ++ [e]⟩

/-! ## Checked operations: the text first, then the state -/

def start (c : Chain) (condition : Value) : Except Fault Chain := do
  let text ← Check.nonBlank condition "where condition"
  if !c.isEmpty then throw .alreadyStarted
  return c.append ⟨.opening, text⟩

def and (c : Chain) (condition : Value) : Except Fault Chain := do
  let text ← Check.nonBlank condition "and_where condition"
  return c.append ⟨if c.isEmpty then .opening else .joined .and, text⟩

def or (c : Chain) (condition : Value) : Except Fault Chain := do
  let text ← Check.nonBlank condition "or_where condition"
  if c.isEmpty then throw .orFirst
  return c.append ⟨.joined .or, text⟩

/-! ## Rendering -/

def renderRest : List Entry → Except Fault String
  | [] => pure ""
  | e :: es =>
    match e.link with
    | .joined c => do
      let rest ← renderRest es
      return " " ++ c.token ++ " " ++ e.text ++ rest
    | l => throw (.strayLink l.display)

/-- The link of the first entry says nothing. -/
def render (c : Chain) : Except Fault (Option String) :=
  match c.entries with
  | [] => pure none
  | e :: es => do
    let rest ← renderRest es
    return some ("where " ++ e.text ++ rest ++ ";")

end Chain

inductive Chain.Call
  | start (condition : Value)
  | and (condition : Value)
  | or (condition : Value)
  | append (e : Entry)
  | clear

def Chain.Call.apply (call : Chain.Call) (c : Chain) : Except Fault Chain :=
  match call with
  | start v => c.start v
  | and v => c.and v
  | or v => c.or v
  | append e => pure (c.append e)
  | clear => pure .empty

def Chain.step (c : Chain) (call : Chain.Call) : Chain :=
  match call.apply c with
  | .ok c => c
  | .error _ => c

def Chain.run (c : Chain) (calls : List Chain.Call) : Chain := calls.foldl step c

end ClauseQuery
