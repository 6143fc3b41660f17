import IconInline.Command.Workspace
import IconInline.Main
import IconInline.Proofs.WholeStatements
import IconInline.Proofs.ImportRemoval
import IconInline.Proofs.MissingIcons
import IconInline.Proofs.SingleFlight
import IconInline.Proofs.ScanAgreement
import IconInline.Proofs.SecondPass
import IconInline.Proofs.SkippedImports
import IconInline.Proofs.SteadyLoads
import IconInline.Proofs.History
import IconInline.Proofs.CommandRuns
import IconInline.Proofs.EncodedCalls
import IconInline.Proofs.ExportedIcons
import IconInline.Proofs.FailedTransforms
import IconInline.Proofs.OutermostSpans
import IconInline.Proofs.LiteralGrammar
import IconInline.Proofs.NestedCalls
import IconInline.Proofs.PathNames
import IconInline.Proofs.TreePlaces
import IconInline.Proofs.Deliveries
import IconInline.Proofs.ModuleMap
import IconInline.Proofs.BalancedCalls
import IconInline.Proofs.LostLines
import IconInline.Proofs.PackageFiles
import IconInline.Proofs.JournalHeaders
