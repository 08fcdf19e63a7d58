import TrafficRouting.Main
import TrafficRouting.Proofs.OrdMap
import TrafficRouting.Proofs.Rulebook.Sound
import TrafficRouting.Proofs.Rulebook.Merge
import TrafficRouting.Proofs.Rulebook.Resolution
import TrafficRouting.Proofs.Rulebook.Same
import TrafficRouting.Proofs.Rulebook.Interference
import TrafficRouting.Proofs.Alteration.Accepted
import TrafficRouting.Proofs.Alteration.Fidelity
import TrafficRouting.Proofs.Alteration.OneByOne
import TrafficRouting.Proofs.ControlPlane.Run
import TrafficRouting.Proofs.ControlPlane.Sound
import TrafficRouting.Proofs.ControlPlane.Batch
import TrafficRouting.Proofs.ControlPlane.Commits
import TrafficRouting.Proofs.ControlPlane.NoTrace
import TrafficRouting.Proofs.Snapshot.Board
import TrafficRouting.Proofs.Toml.Key
import TrafficRouting.Proofs.ControlPlane.Durable
import TrafficRouting.Proofs.Serving.Mailbox
import TrafficRouting.Proofs.Serving.Reloads
import TrafficRouting.Proofs.Serving.OwnTypes
import TrafficRouting.Proofs.FileTree.Place
import TrafficRouting.Proofs.FileTree.Frame
import TrafficRouting.Proofs.Store.Frame
import TrafficRouting.Proofs.Store.CutOff
import TrafficRouting.Proofs.Command.Agreement
import TrafficRouting.Proofs.Rulebook.Again
import TrafficRouting.Proofs.ControlPlane.TwoRequests
import TrafficRouting.Proofs.ControlPlane.Restart
import TrafficRouting.Proofs.Rulebook.Collected
import TrafficRouting.Proofs.Rulebook.Alarm
import TrafficRouting.Proofs.Alteration.Refused
import TrafficRouting.Proofs.Rulebook.LabelIndex
import TrafficRouting.Proofs.Rulebook.Report
import TrafficRouting.Proofs.Rulebook.SameAnswers
import TrafficRouting.Proofs.Text.CaseTable
import TrafficRouting.Proofs.Text.Casing
import TrafficRouting.Proofs.Text.Pattern.Class
import TrafficRouting.Proofs.Serving.SkippedReload
import TrafficRouting.Proofs.Serving.Heard
import TrafficRouting.Proofs.Settings.Tolerant
