import Songbook.Catalog.Step
import Songbook.Main
import Songbook.Proofs.Meaning
import Songbook.Proofs.Reading
import Songbook.Proofs.Addresses
import Songbook.Proofs.Batches
import Songbook.Proofs.CivilDays
import Songbook.Proofs.Commands
import Songbook.Proofs.Composition
import Songbook.Proofs.Dates
import Songbook.Proofs.Draft
import Songbook.Proofs.Durations
import Songbook.Proofs.Enumeration
import Songbook.Proofs.Explanations
import Songbook.Proofs.Exports
import Songbook.Proofs.Faults
import Songbook.Proofs.Footprint
import Songbook.Proofs.History
import Songbook.Proofs.Integers
import Songbook.Proofs.Keywords
import Songbook.Proofs.Listings
import Songbook.Proofs.Midnights
import Songbook.Proofs.Occurrences
import Songbook.Proofs.Outcomes
import Songbook.Proofs.Counts
import Songbook.Proofs.OperandErrors
import Songbook.Proofs.QueryStrings
import Songbook.Proofs.ReadBack
import Songbook.Proofs.Relocation
import Songbook.Proofs.Resolution
import Songbook.Proofs.Truncation
import Songbook.Proofs.Utf8
import Songbook.Proofs.Windows
import Songbook.Proofs.Sexagesimal
import Songbook.Proofs.ShownTimes
import Songbook.Proofs.CaseFolding
import Songbook.Proofs.RealDays
import Songbook.Proofs.DateOperands
import Songbook.Proofs.WordSets
import Songbook.Proofs.Polarity
import Songbook.Proofs.SavedSettings
import Songbook.Proofs.Occupancy
