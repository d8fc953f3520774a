import ClauseQuery.Catalogue

/-! # The program: prints the sample queries -/

def main : IO UInt32 := do
  match ClauseQuery.Catalogue.output with
  | .ok text => IO.print text; return 0
  | .error f => IO.eprintln f.message; return 1
