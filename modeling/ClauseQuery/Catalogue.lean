import ClauseQuery.Query.Session

/-! # Queries against a catalogue of games -/

namespace ClauseQuery.Catalogue

open QueryM

def gameFields : List Value := ["name", "rating", "first_release_date", "platforms.name", "cover.url"]

def mostCounted : Int := 9223372036854775807

/-- From here on an integer rounds to no finite double. -/
def realBound : Int := Int.pow 2 1024 - Int.pow 2 970

/-- Whether `n` copies of `length` items can be joined where there is room for `room` items. An empty
sequence can be copied as often as can be counted. -/
def checkCopies (room : Int) (length : Nat) (n : Int) (tooLong : Fault) : Except Fault Unit :=
  if mostCounted < n then throw .countTooLarge
  else if mostCounted < length * n then throw tooLong
  else if room < length * n then throw .outOfMemory
  else pure ()

/-- The number of entries before a page. Where the page is no integer, but the product has a meaning,
the page itself stands for the product: it is left for `offset` to refuse. -/
def pageStart (room : Int) (page : Value) (pageSize : Int) : Except Fault Value := do
  match page with
  | .flag b => return .integer ((if b then 1 else 0) * pageSize)
  | .integer n => return .integer (n * pageSize)
  | .real _ => if realBound ≤ pageSize then throw .noFiniteReal
  | .word w => checkCopies room w.token.length pageSize .textTooLong
  | .bytes b => checkCopies room b.length pageSize .bytesTooLong
  | .list xs | .tuple xs => checkCopies room xs.length pageSize .outOfMemory
  | .null | .mapping _ | .object _ => throw (.notMultipliable page)
  return page

def topRated (minRating pageSize page : Value) (room : Int := mostCounted) : QueryM String := do
  renew (.flag true)
  select gameFields
  startWhere (← condition "rating" minRating Comparison.gt)
  andWhere (← condition "rating_count" 50 Comparison.gte)
  sort "rating" Direction.desc
  limit pageSize
  let size ← check (Check.integer pageSize "limit")
  offset (← check (pageStart room page size))
  build

def releasedBefore (cutoff : Value) : Except Fault Value := do
  return "(release_dates.human < \"" ++ (← cutoff.display) ++ "\")"

def forPlatforms (platforms cutoff : Value) : QueryM String := do
  renew (.flag true)
  select ["name", "platforms"]
  exclude ["storyline"]
  match platforms.elements? with
  | none => throw (.notIterable platforms)
  | some xs => startWhere (← condition "platforms" (.list xs) Comparison.containsAny)
  if cutoff.isTruthy then orWhere (← check (releasedBefore cutoff))
  sort "name"
  build

def searchGames (term : Value) (most : Value := 20) : QueryM String := do
  renew
  select gameFields
  search term
  limit most
  display

def pc : Value := 6
def ps4 : Value := 48

def samples : QueryM (List (String × String)) := do
  let rated ← topRated 80 10 0
  let released ← forPlatforms (.list [pc, ps4]) "2023-01-01"
  let found ← searchGames "Zelda \"Breath\""
  return [("top_rated", rated), ("pc_and_ps4", released), ("search", found)]

def listing : QueryM String := do
  return String.join ((← samples).map fun (label, text) => label ++ ": " ++ text ++ "\n")

def output : Except Fault String := (listing.run {}).1

end ClauseQuery.Catalogue
