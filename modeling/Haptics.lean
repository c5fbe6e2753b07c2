import Haptics.Main
import Haptics.Proofs.Ceilings
import Haptics.Proofs.Exposure
import Haptics.Proofs.FirstFailure
import Haptics.Proofs.Hysteresis
import Haptics.Proofs.Periods
import Haptics.Proofs.Derating
import Haptics.Proofs.Activation
import Haptics.Proofs.GlobalLevel
import Haptics.Proofs.NodeFiles
import Haptics.Proofs.Triggering
import Haptics.Proofs.AnsweredLevels
import Haptics.Proofs.CubicRoots
import Haptics.Proofs.RealRoots
import Haptics.Proofs.LowerDegree
import Haptics.Proofs.BringUp
import Haptics.Proofs.HiddenChannels
import Haptics.Proofs.StaticFallback
import Haptics.Proofs.Ownership
import Haptics.Proofs.HistoryIndependence
import Haptics.Proofs.NodeContents
import Haptics.Proofs.Lines
import Haptics.Proofs.FactoryLines
import Haptics.Proofs.Numerals
import Haptics.Proofs.FieldIsolation
import Haptics.Proofs.LoopSelection
import Haptics.Proofs.SolvedClamps
import Haptics.Proofs.ClampOrder
import Haptics.Proofs.VolumeLevels
import Haptics.Proofs.AmplitudeControl
import Haptics.Proofs.SteadyClamps
import Haptics.Proofs.PlannedTimes
import Haptics.Proofs.NodeTexts
import Haptics.Proofs.Words
import Haptics.Proofs.Scalars
import Haptics.Proofs.FactoryRows
import Haptics.Proofs.History
import Haptics.Proofs.SlotMoves
import Haptics.Proofs.ScaleSteps
import Haptics.Proofs.Programs
import Haptics.Proofs.CommandLine
import Haptics.Proofs.Invocations
