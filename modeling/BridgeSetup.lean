import BridgeSetup.Main
import BridgeSetup.Proofs.FileTree.Growth
import BridgeSetup.Proofs.FileTree.Ways
import BridgeSetup.Proofs.FileTree.Reach
import BridgeSetup.Proofs.FileTree.Actions
import BridgeSetup.Proofs.FileTree.Directories
import BridgeSetup.Proofs.Run.Tasks
import BridgeSetup.Proofs.Setup.Footprints
import BridgeSetup.Proofs.Setup.Preparation
import BridgeSetup.Proofs.Setup.Containment
import BridgeSetup.Proofs.Setup.Configuring
import BridgeSetup.Proofs.Setup.Members
import BridgeSetup.Proofs.Setup.Marker
import BridgeSetup.Proofs.Setup.Repetition
import BridgeSetup.Proofs.FileTree.Overlay
import BridgeSetup.Proofs.Run.Repeats
import BridgeSetup.Proofs.Setup.Rewriting
import BridgeSetup.Proofs.Run.Agreement
import BridgeSetup.Proofs.Setup.Resumption
import BridgeSetup.Proofs.Run.Failures
import BridgeSetup.Proofs.FileTree.Shapes
import BridgeSetup.Proofs.Setup.Installing
import BridgeSetup.Proofs.Setup.Gating
import BridgeSetup.Proofs.Setup.Marked
import BridgeSetup.Proofs.Setup.Renewal
import BridgeSetup.Proofs.Execute.Endings
import BridgeSetup.Proofs.Execute.ExitStatus
import BridgeSetup.Proofs.Run.Accounts
import BridgeSetup.Proofs.Setup.Advice
import BridgeSetup.Proofs.Execute.LogLevels
import BridgeSetup.Proofs.Execute.Precedence
import BridgeSetup.Proofs.FileTree.Landing
import BridgeSetup.Proofs.Setup.Unpacking
import BridgeSetup.Proofs.Zip.Members
import BridgeSetup.Proofs.Setup.Writing
import BridgeSetup.Proofs.Setup.Interruption
import BridgeSetup.Proofs.Setup.Stability
import BridgeSetup.Proofs.Setup.Extraction
import BridgeSetup.Proofs.Installer.StatusLine
import BridgeSetup.Proofs.FileTree.Folding
import BridgeSetup.Proofs.Setup.BundledRuntime
import BridgeSetup.Proofs.Path.Normalization
import BridgeSetup.Proofs.Distribution.Identifiers
import BridgeSetup.Proofs.Interpreter.ProbeOutput
import BridgeSetup.Proofs.FileTree.Executables
import BridgeSetup.Proofs.Interpreter.Choice
import BridgeSetup.Proofs.Interpreter.Starting
import BridgeSetup.Proofs.CommandLine.Reader
import BridgeSetup.Proofs.CommandLine.Rewording
