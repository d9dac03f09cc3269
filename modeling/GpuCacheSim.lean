import GpuCacheSim.Bridge.Driver
import GpuCacheSim.Bridge.Halting
import GpuCacheSim.Bridge.Retire
import GpuCacheSim.Bridge.Invariant
import GpuCacheSim.OperandCollector.Dispatch
import GpuCacheSim.OperandCollector.Arbiter
import GpuCacheSim.AnyNet.StdMap
import GpuCacheSim.AnyNet.ReadFile
import GpuCacheSim.AnyNet.BuildNet
import GpuCacheSim.AnyNet.Route
import GpuCacheSim.AnyNet.Dijkstra
import GpuCacheSim.AnyNet.RoutingTable
import GpuCacheSim.AnyNet.Declared
import GpuCacheSim.AnyNet.FileLinks
import GpuCacheSim.AnyNet.Accepts
