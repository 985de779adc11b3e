import BlueberryIrrigation.Semantics.Clock
import BlueberryIrrigation.Semantics.History
import BlueberryIrrigation.Controller.State
import BlueberryIrrigation.Controller.Device
import BlueberryIrrigation.Controller.ControlFlow
import BlueberryIrrigation.Controller.FlowEffects
import BlueberryIrrigation.Controller.Irrigation
import BlueberryIrrigation.Controller.Operation
import BlueberryIrrigation.Controller.IrrigationEffects
import BlueberryIrrigation.Safety.Power
import BlueberryIrrigation.Resume.Accounting
import BlueberryIrrigation.Resume.Phantom
import BlueberryIrrigation.Safety.Zones
import BlueberryIrrigation.Safety.Stop
import BlueberryIrrigation.Delivery.Finish
import BlueberryIrrigation.Plan.Stages
import BlueberryIrrigation.Plan.Follows
import BlueberryIrrigation.Plan.Ends
import BlueberryIrrigation.Plan.Trace
import BlueberryIrrigation.Network.Packet
import BlueberryIrrigation.Server.Udp
import BlueberryIrrigation.Network.Bounds
import BlueberryIrrigation.Network.Internet
import BlueberryIrrigation.Interface.Dispatch
import BlueberryIrrigation.Interface.Serial
import BlueberryIrrigation.Interface.Loop
import BlueberryIrrigation.Network.Channel
import BlueberryIrrigation.Interface.Release
import BlueberryIrrigation.Interface.Drives
import BlueberryIrrigation.Controller.Rollover
import BlueberryIrrigation.Network.Frames
import BlueberryIrrigation.Network.RoundTrip
import BlueberryIrrigation.Interface.Words
import BlueberryIrrigation.Server.Mirror
import BlueberryIrrigation.Server.Telemetry
import BlueberryIrrigation.Server.Commands
import BlueberryIrrigation.Interface.Indices
import BlueberryIrrigation.Safety.Latch
import BlueberryIrrigation.Plan.Markers
import BlueberryIrrigation.Interface.Pass
import BlueberryIrrigation.Safety.Outlet
import BlueberryIrrigation.Resume.Upkeep
import BlueberryIrrigation.Resume.Transparent
import BlueberryIrrigation.Exchange.Malformed
import BlueberryIrrigation.Exchange.Storm
import BlueberryIrrigation.Controller.FlowStarts
import BlueberryIrrigation.Delivery.Volume
import BlueberryIrrigation.Safety.Switching
import BlueberryIrrigation.Controller.FlowWindows
import BlueberryIrrigation.Delivery.Pause
import BlueberryIrrigation.Delivery.Schedule
import BlueberryIrrigation.Delivery.Window
import BlueberryIrrigation.Delivery.Garden
import BlueberryIrrigation.Network.Chip
import BlueberryIrrigation.Interface.Discipline
import BlueberryIrrigation.Interface.Decimal
import BlueberryIrrigation.Interface.Operator
import BlueberryIrrigation.Controller.PulseCount
import BlueberryIrrigation.Interface.Dump
import BlueberryIrrigation.Safety.Relays
import BlueberryIrrigation.Delivery.Limit
import BlueberryIrrigation.Safety.Manifold
import BlueberryIrrigation.Semantics.Mailbox
import BlueberryIrrigation.Web.Relay
import BlueberryIrrigation.Web.Page
import BlueberryIrrigation.Semantics.Register
import BlueberryIrrigation.Web.Stale
import BlueberryIrrigation.Exchange.Snapshots
import BlueberryIrrigation.Interface.KeepAlive
import BlueberryIrrigation.Interface.Recovery
import BlueberryIrrigation.Safety.Coil
import BlueberryIrrigation.Safety.DryRun
import BlueberryIrrigation.Delivery.Watering
import BlueberryIrrigation.Ethernet.Socket
import BlueberryIrrigation.Ethernet.Udp
import BlueberryIrrigation.Ethernet.Dns
import BlueberryIrrigation.Ethernet.Resolve
import BlueberryIrrigation.Interface.Settings
import BlueberryIrrigation.Semantics.Slot
import BlueberryIrrigation.Web.Form
import BlueberryIrrigation.Ethernet.Dhcp
import BlueberryIrrigation.Ethernet.Grant
import BlueberryIrrigation.Safety.WellPump
