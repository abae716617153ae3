import FormulaScan.Main
import FormulaScan.Proofs.CommandLine.Sources
import FormulaScan.Proofs.Grammar.RoundTrip
import FormulaScan.Proofs.Literal.Values
import FormulaScan.Proofs.Run.MaximalPartition
import FormulaScan.Proofs.Scan.Blanking
import FormulaScan.Proofs.Scan.Coherence
import FormulaScan.Proofs.Scan.Composition
import FormulaScan.Proofs.Scan.Evidence
import FormulaScan.Proofs.Scan.LookAhead
import FormulaScan.Proofs.Scan.Losses
import FormulaScan.Proofs.Scan.Renaming
import FormulaScan.Proofs.Scan.Spacing
import FormulaScan.Proofs.Settings.Changes
import FormulaScan.Proofs.Settings.Locales
import FormulaScan.Proofs.Token.Text
