import DeviceSampling.Main
import DeviceSampling.Host.Script
import DeviceSampling.Session.Operation
import DeviceSampling.Proofs.CommandSafety
import DeviceSampling.Proofs.IdLists
import DeviceSampling.Proofs.ReportRuns
import DeviceSampling.Proofs.CheckPolls
import DeviceSampling.Proofs.Starting
import DeviceSampling.Proofs.DoubleRange
import DeviceSampling.Proofs.ReportRange
import DeviceSampling.Proofs.MetricKeys
import DeviceSampling.Proofs.ReportCaps
import DeviceSampling.Proofs.TruthfulChecks
import DeviceSampling.Proofs.LaunchSteps
import DeviceSampling.Proofs.Numerals
import DeviceSampling.Proofs.ReportPrinting
import DeviceSampling.Proofs.RunFigures
import DeviceSampling.Proofs.ShellWords
import DeviceSampling.Proofs.CommandWords
import DeviceSampling.Proofs.ShownValues
import DeviceSampling.Proofs.ConfigReports
import DeviceSampling.Proofs.ConfigRuns
import DeviceSampling.Proofs.HostTraces
import DeviceSampling.Proofs.RecordRuns
import DeviceSampling.Proofs.Interruptions
import DeviceSampling.Proofs.RecordEnds
import DeviceSampling.Proofs.JsonTexts
import DeviceSampling.Proofs.ReportCommands
import DeviceSampling.Proofs.BridgeRequests
import DeviceSampling.Proofs.ReportBlocks
import DeviceSampling.Proofs.SymbolChoice
import DeviceSampling.Proofs.ErrorTexts
import DeviceSampling.Proofs.BridgedSessions
import DeviceSampling.Proofs.ConfigBounds
import DeviceSampling.Proofs.PollOutcomes
import DeviceSampling.Proofs.ConfigDocuments
import DeviceSampling.Proofs.ConfigOmissions
import DeviceSampling.Proofs.CarriageReturns
import DeviceSampling.Proofs.IdFilters
import DeviceSampling.Proofs.MetricForms
import DeviceSampling.Proofs.ShareRounding
