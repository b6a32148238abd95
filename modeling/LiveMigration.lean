import LiveMigration.Bootstrap
import LiveMigration.Timer
import LiveMigration.TimerThreads
import LiveMigration.Ram.Guest
import LiveMigration.Log.Settings
import LiveMigration.Tool.Run
import LiveMigration.Main
import LiveMigration.Proofs.Unmap
import LiveMigration.Proofs.UnmapPass
import LiveMigration.Proofs.MasterConfig
import LiveMigration.Proofs.MasterText
import LiveMigration.Proofs.OpenMaster
import LiveMigration.Proofs.PhaseRuns
import LiveMigration.Proofs.SourceOpening
import LiveMigration.Proofs.TimerRace
import LiveMigration.Proofs.ClockThreads
import LiveMigration.Proofs.DirtyCursor
import LiveMigration.Proofs.CounterReports
import LiveMigration.Proofs.ArgumentParse
import LiveMigration.Proofs.HostShape
import LiveMigration.Proofs.ToolExit
import LiveMigration.Proofs.RegionLayout
import LiveMigration.Proofs.KeyedTables
import LiveMigration.Proofs.DestinationOpening
import LiveMigration.Proofs.FaultOrder
import LiveMigration.Proofs.OptionStrings
import LiveMigration.Proofs.PrefetchWalk
import LiveMigration.Proofs.PortFile
import LiveMigration.Proofs.UriHost
