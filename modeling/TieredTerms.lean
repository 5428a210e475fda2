import TieredTerms.CommandLine.Run
import TieredTerms.Config.Settings
import TieredTerms.Inquiry
import TieredTerms.Journal
import TieredTerms.Main
import TieredTerms.Report
import TieredTerms.Proofs.Inquiry.Boundary
import TieredTerms.Proofs.Inquiry.Canonical
import TieredTerms.Proofs.Inquiry.Configured
import TieredTerms.Proofs.Duration.RoundTrip
import TieredTerms.Proofs.Rule.Checks
import TieredTerms.Proofs.Rule.CategoryGrammar
import TieredTerms.Proofs.Rule.Segments
import TieredTerms.Proofs.Rule.Interchange
import TieredTerms.Proofs.RuleTable.Runs
import TieredTerms.Proofs.RuleTable.Loaders
import TieredTerms.Proofs.RuleTable.EntryPoints
import TieredTerms.Proofs.RuleTable.Cloning
import TieredTerms.Proofs.Config.Overlay
import TieredTerms.Proofs.Config.Sources
import TieredTerms.Proofs.Config.Layers
import TieredTerms.Proofs.Config.OutputLayers
import TieredTerms.Proofs.Config.Agreement
import TieredTerms.Proofs.CommandLine.Flags
import TieredTerms.Proofs.Screen.Tables
import TieredTerms.Proofs.Text.StandIns
import TieredTerms.Proofs.Report.Documents
import TieredTerms.Proofs.Report.Fields
import TieredTerms.Proofs.Report.Successes
import TieredTerms.Proofs.Inquiry.Presentable
import TieredTerms.Proofs.CommandLine.Runs
import TieredTerms.Proofs.Config.Search
import TieredTerms.Proofs.Report.Texts
import TieredTerms.Proofs.Report.ReadBack
import TieredTerms.Proofs.Journal.SetUps
