import ClauseQuery.Fault.Report
import ClauseQuery.Log
import ClauseQuery.Main
import ClauseQuery.Query.Call
import ClauseQuery.Query.Runs
import ClauseQuery.Proofs.Effects
import ClauseQuery.Proofs.Frame
import ClauseQuery.Proofs.Rendering
import ClauseQuery.Proofs.Stray
import ClauseQuery.Proofs.WellFormed
import ClauseQuery.Proofs.Sealed
import ClauseQuery.Proofs.Conditions
import ClauseQuery.Proofs.Reading
import ClauseQuery.Proofs.Legible
import ClauseQuery.Proofs.Histories
import ClauseQuery.Proofs.Summary
import ClauseQuery.Proofs.Quotation
import ClauseQuery.Proofs.Paths
import ClauseQuery.Proofs.Choices
import ClauseQuery.Proofs.Spellings
import ClauseQuery.Proofs.Chains
import ClauseQuery.Proofs.Snapshot
import ClauseQuery.Proofs.Privacy
import ClauseQuery.Proofs.Reordering
import ClauseQuery.Proofs.Strictness
import ClauseQuery.Proofs.Nearest
import ClauseQuery.Proofs.ShortestDecimal
import ClauseQuery.Proofs.Numerals
import ClauseQuery.Proofs.Literals
import ClauseQuery.Proofs.UniqueConditions
import ClauseQuery.Proofs.Acceptance
import ClauseQuery.Proofs.LoggerRuns
import ClauseQuery.Proofs.Environment
import ClauseQuery.Proofs.Catalogues
import ClauseQuery.Proofs.Pages
import ClauseQuery.Proofs.Cutoffs
