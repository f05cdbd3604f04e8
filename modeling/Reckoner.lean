import Reckoner.Text.Quoted
import Reckoner.Text.WhiteSpace
import Reckoner.Text.NameChar
import Reckoner.Text.DecimalDigit
import Reckoner.Text.LowerCase
import Reckoner.Number.Written
import Reckoner.Number.Places
import Reckoner.Number.Literal
import Reckoner.Token
import Reckoner.LexicalGrammar
import Reckoner.Parser
import Reckoner.Session
import Reckoner.Units.Catalog
import Reckoner.CommandLine.Flag
import Reckoner.CommandLine.UsageError
import Reckoner.Fault
import Reckoner.Number.Whole
import Reckoner.CommandLine.Use
import Reckoner.CommandLine.Settings
import Reckoner.CommandLine.Job
import Reckoner.CommandLine.Run
import Reckoner.Main
import Reckoner.Proofs.Automaton
import Reckoner.Proofs.Faults
import Reckoner.Proofs.RoundTrip
import Reckoner.Proofs.Joints
import Reckoner.Proofs.Routes
import Reckoner.Proofs.AffineWays
import Reckoner.Proofs.ExactConversion
import Reckoner.Proofs.Radians
import Reckoner.Proofs.Substitution
import Reckoner.Proofs.History
import Reckoner.Proofs.OneLine
import Reckoner.Proofs.Batch
import Reckoner.Proofs.AskedUnits
import Reckoner.Proofs.CommandWords
import Reckoner.Proofs.WaysIn
import Reckoner.Proofs.ViablePrefix
import Reckoner.Proofs.Gaps
import Reckoner.Proofs.Dumping
import Reckoner.Proofs.FiniteDoubles
import Reckoner.Proofs.Rounding
import Reckoner.Proofs.WiderRegisters
import Reckoner.Proofs.InPlace
import Reckoner.Proofs.InTurn
import Reckoner.Proofs.LowerCase
import Reckoner.Proofs.UnitLookup
import Reckoner.Proofs.Squares
import Reckoner.Proofs.Factors
import Reckoner.Proofs.AngleWords
import Reckoner.Proofs.AngleModeSources
import Reckoner.Proofs.GrammarNames
import Reckoner.Proofs.Factorials
