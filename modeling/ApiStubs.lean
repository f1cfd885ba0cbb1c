import ApiStubs.Doc.Builder
import ApiStubs.Fragment.Cursor
import ApiStubs.Main
import ApiStubs.Proofs.CommandRuns
import ApiStubs.Proofs.FactoryBodies
import ApiStubs.Proofs.Identifiers
import ApiStubs.Proofs.JsonTable
import ApiStubs.Proofs.LineEndings
import ApiStubs.Proofs.MemberOrder
import ApiStubs.Proofs.Rewriting
import ApiStubs.Proofs.RootElement
import ApiStubs.Proofs.Runtimes
import ApiStubs.Proofs.RunningText
import ApiStubs.Proofs.FaultCauses
import ApiStubs.Proofs.Signatures
import ApiStubs.Proofs.Emissions
import ApiStubs.Proofs.ItemCalls
import ApiStubs.Proofs.ListenerComments
import ApiStubs.Proofs.Precedence
import ApiStubs.Proofs.SettingsLayers
import ApiStubs.Proofs.EscapeDecoding
import ApiStubs.Proofs.Indentation
import ApiStubs.Proofs.RuntimeLiterals
