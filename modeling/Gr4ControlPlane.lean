import Gr4ControlPlane.L3Catalog.BlockNaming
import Gr4ControlPlane.L3Catalog.BlockProvider
import Gr4ControlPlane.L3Catalog.BlockReflection
import Gr4ControlPlane.L3Catalog.CollectionPorts
import Gr4ControlPlane.L3Catalog.LibraryStaging
import Gr4ControlPlane.L3Catalog.ReflectedDescriptors
import Gr4ControlPlane.L3Runtime.ManagerShutdown
import Gr4ControlPlane.L3Runtime.PortSafety
import Gr4ControlPlane.L3Runtime.PortTokens
import Gr4ControlPlane.L3Runtime.PrepareAtomic
import Gr4ControlPlane.L3Runtime.RuntimeEnvironment
import Gr4ControlPlane.L3Runtime.StreamWiring
import Gr4ControlPlane.L3Runtime.TeardownProgress
import Gr4ControlPlane.L4App.BlockAddressing
import Gr4ControlPlane.L4App.BlockCatalogService
import Gr4ControlPlane.L4App.FetchRetries
import Gr4ControlPlane.L4App.LiveSurfaces
import Gr4ControlPlane.L4App.RecordFrame
import Gr4ControlPlane.L4App.RestartPorts
import Gr4ControlPlane.L4App.SchedulerCatalog
import Gr4ControlPlane.L4App.SettingsExchange
import Gr4ControlPlane.L4App.SettingsRoundTrip
import Gr4ControlPlane.L4App.StartOnce
import Gr4ControlPlane.L4App.StreamIsolation
import Gr4ControlPlane.L4App.StubRuntimeManager
import Gr4ControlPlane.L4App.TwoLevel
import Gr4ControlPlane.L5Api.BridgeShutdown
import Gr4ControlPlane.L5Api.CatalogRoutes
import Gr4ControlPlane.L5Api.ErrorReplies
import Gr4ControlPlane.L5Api.HttpProxy
import Gr4ControlPlane.L5Api.PercentEncoding
import Gr4ControlPlane.L5Api.SessionListing
import Gr4ControlPlane.L5Api.SettingsRoutes
import Gr4ControlPlane.L5Api.WebSocketBridge
import Gr4ControlPlane.L6Cli.CommandRequests
import Gr4ControlPlane.L6Cli.Commands
