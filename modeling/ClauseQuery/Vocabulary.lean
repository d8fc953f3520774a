/-! # Closed vocabularies -/

namespace ClauseQuery

inductive Comparison
  | eq | neq | gt | gte | lt | lte
  | containsAll | notContainsAll | containsAny | notContainsAny | containsExactly
  deriving DecidableEq

inductive Connective
  | and | or
  deriving DecidableEq

inductive Direction
  | asc | desc
  deriving DecidableEq

/-! ## Comparisons -/

namespace Comparison

def all : List Comparison :=
  [eq, neq, gt, gte, lt, lte, containsAll, notContainsAll, containsAny, notContainsAny,
    containsExactly]

def token : Comparison → String
  | eq => "="
  | neq => "!="
  | gt => ">"
  | gte => ">="
  | lt => "<"
  | lte => "<="
  | containsAll => "[]"
  | notContainsAll => "![]"
  | containsAny => "()"
  | notContainsAny => "!()"
  | containsExactly => "\x7b\x7d"

def name : Comparison → String
  | eq => "EQ"
  | neq => "NEQ"
  | gt => "GT"
  | gte => "GTE"
  | lt => "LT"
  | lte => "LTE"
  | containsAll => "CONTAINS_ALL"
  | notContainsAll => "NOT_CONTAINS_ALL"
  | containsAny => "CONTAINS_ANY"
  | notContainsAny => "NOT_CONTAINS_ANY"
  | containsExactly => "CONTAINS_EXACTLY"

/-- What goes around the elements; the comparisons with one value have none. -/
def brackets : Comparison → Option (String × String)
  | containsAll => some ("[", "]")
  | notContainsAll => some ("![", "]")
  | containsAny => some ("(", ")")
  | notContainsAny => some ("!(", ")")
  | containsExactly => some ("\x7b", "\x7d")
  | _ => none

def takesArray (c : Comparison) : Bool := c.brackets.isSome

end Comparison

/-! ## Connectives and directions -/

namespace Connective

def all : List Connective := [and, or]

def token : Connective → String
  | and => "&"
  | or => "|"

def name : Connective → String
  | and => "AND"
  | or => "OR"

end Connective

namespace Direction

def all : List Direction := [asc, desc]

def token : Direction → String
  | asc => "asc"
  | desc => "desc"

def name : Direction → String
  | asc => "ASC"
  | desc => "DESC"

end Direction

/-! ## Members of any vocabulary -/

inductive Member
  | comparison (c : Comparison)
  | connective (c : Connective)
  | direction (d : Direction)
  deriving DecidableEq

namespace Member

def token : Member → String
  | comparison c => c.token
  | connective c => c.token
  | direction d => d.token

def name : Member → String
  | comparison c => c.name
  | connective c => c.name
  | direction d => d.name

def title : Member → String
  | comparison _ => "ComparisonOperator"
  | connective _ => "LogicalOperator"
  | direction _ => "SortDirection"

def fullName (m : Member) : String := m.title ++ "." ++ m.name

end Member

class Vocabulary (α : Type) where
  title : String
  members : List α
  token : α → String
  name : α → String
  toMember : α → Member
  ofMember? : Member → Option α

instance : Vocabulary Comparison where
  title := "ComparisonOperator"
  members := Comparison.all
  token := Comparison.token
  name := Comparison.name
  toMember := .comparison
  ofMember?
    | .comparison c => some c
    | _ => none

instance : Vocabulary Connective where
  title := "LogicalOperator"
  members := Connective.all
  token := Connective.token
  name := Connective.name
  toMember := .connective
  ofMember?
    | .connective c => some c
    | _ => none

instance : Vocabulary Direction where
  title := "SortDirection"
  members := Direction.all
  token := Direction.token
  name := Direction.name
  toMember := .direction
  ofMember?
    | .direction d => some d
    | _ => none

end ClauseQuery
