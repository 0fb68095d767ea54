import CsiPlugin.Go.Basic
import CsiPlugin.Plugin.Basic
import CsiPlugin.Driver.ControllerHelper
import CsiPlugin.Driver.NfsProtocol
import CsiPlugin.Driver.ModeAndType
import CsiPlugin.Driver.CreateVolume
import CsiPlugin.Driver.CreateVolumeContract
import CsiPlugin.Driver.Controller
import CsiPlugin.Driver.ControllerCalls
import CsiPlugin.Driver.ControllerContract
import CsiPlugin.Driver.ControllerErrors
import CsiPlugin.App.ConnectorOptions
import CsiPlugin.Plugin.Config
import CsiPlugin.Plugin.ValidateInit
import CsiPlugin.Plugin.Session
import CsiPlugin.Plugin.SessionRuns
import CsiPlugin.Plugin.Capabilities
import CsiPlugin.Plugin.Dispatch
import CsiPlugin.Plugin.DispatchTable
import CsiPlugin.Plugin.DispatchRace
import CsiPlugin.Plugin.DispatchStable
import CsiPlugin.Plugin.SessionAccounting
import CsiPlugin.Plugin.SessionUnbonded
import CsiPlugin.Plugin.DispatchContract
import CsiPlugin.Plugin.SanVolume
import CsiPlugin.Plugin.DTreeVolume
