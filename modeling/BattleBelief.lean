import BattleBelief.Actions.Commands
import BattleBelief.Actions.ReaderErrors
import BattleBelief.Client.Authentication
import BattleBelief.Engine.Boundary
import BattleBelief.Engine.FormatGate
import BattleBelief.Engine.InformationStates
import BattleBelief.Engine.InstallationClosure
import BattleBelief.Engine.MigrationSound
import BattleBelief.Engine.PayloadImmutability
import BattleBelief.Engine.PublicHp
import BattleBelief.Engine.QualificationSound
import BattleBelief.Engine.RootPrecision
import BattleBelief.Evaluation.CanonicalTeams
import BattleBelief.Evaluation.MeasurementTotality
import BattleBelief.Evaluation.SeedPairing
import BattleBelief.Observation.BoostAlgebra
import BattleBelief.Observation.HpPrecision
import BattleBelief.Observation.SwitchTracking
import BattleBelief.Oracle.CleanupLadder
import BattleBelief.Oracle.CommandEncoding
import BattleBelief.Oracle.LinkTargets
import BattleBelief.Oracle.ManifestRoundTrip
import BattleBelief.Oracle.OrphanSearch
import BattleBelief.Oracle.TreeCollectors
import BattleBelief.Oracle.Verdicts
import BattleBelief.Protocol.SideLayers
import BattleBelief.Protocol.Transient
import BattleBelief.Records.ProjectionPrivacy
import BattleBelief.Registration.CalibrationLimits
import BattleBelief.Registration.Lineages
import BattleBelief.Session.DefaultPolicy
import BattleBelief.Session.PendingRequests
import BattleBelief.Session.RecordCommitments
import BattleBelief.Session.Replay
import BattleBelief.Session.RoomIsolation
import BattleBelief.Session.TraceFile
import BattleBelief.Setup.Conversation
