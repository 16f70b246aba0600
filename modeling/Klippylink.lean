import Klippylink.Lib.System
import Klippylink.Lib.Transducer
import Klippylink.Lib.Table
import Klippylink.Lib.KeyedTable
import Klippylink.Lib.Memory
import Klippylink.Lib.Dict
import Klippylink.Lib.Fallible
import Klippylink.Lib.Bytes
import Klippylink.Lib.Channel
import Klippylink.Lib.Buffer
import Klippylink.Lib.Journal
import Klippylink.Lib.Cycle
import Klippylink.Lib.Numerals
import Klippylink.Lib.Lease
import Klippylink.Lib.Lookup
import Klippylink.Lib.Records
import Klippylink.Lib.Access
import Klippylink.Lib.Mutex
import Klippylink.Lib.WriteBack
import Klippylink.Lib.Painting
import Klippylink.Lib.CStr
import Klippylink.Lib.Checksum
import Klippylink.Protocol.Packet
import Klippylink.Protocol.Codec
import Klippylink.Protocol.CJson
import Klippylink.Protocol.Json
import Klippylink.Router.CommandParser
import Klippylink.Router.Receiver
import Klippylink.Router.RxBuffer
import Klippylink.Router.Framing
import Klippylink.Router.Attribution
import Klippylink.Router.Sizes
import Klippylink.Router.Oversized
import Klippylink.Host.SerialTransport
import Klippylink.Router.RoundTrip
import Klippylink.Router.NodeRegistry
import Klippylink.Router.BleCentral
import Klippylink.Router.World
import Klippylink.Router.Admission
import Klippylink.Router.Mirror
import Klippylink.Router.Connections
import Klippylink.Router.Identity
import Klippylink.Router.Scanning
import Klippylink.Router.Notifications
import Klippylink.Router.DeviceInfo
import Klippylink.Router.Delivery
import Klippylink.Router.Bounds
import Klippylink.Router.OtaHandler
import Klippylink.Node.OtaHandler
import Klippylink.Node.GattServer
import Klippylink.Node.Flashing
import Klippylink.Node.Restart
import Klippylink.Node.Handles
import Klippylink.Node.Answers
import Klippylink.Node.Reads
import Klippylink.Node.WifiNode
import Klippylink.Node.ConfigLoader
import Klippylink.Node.ConfigSaver
import Klippylink.Node.Drivers
import Klippylink.Node.Main
import Klippylink.Node.LedEffects
import Klippylink.Node.Rendering
import Klippylink.Node.Pixels
import Klippylink.Node.LedNode
import Klippylink.Node.Animation
import Klippylink.Node.Shares
import Klippylink.Node.Boot
import Klippylink.Node.LedTasks
import Klippylink.Node.Neopixel
import Klippylink.Node.PixelPackets
import Klippylink.Node.Heater
import Klippylink.Node.EmergencyOff
import Klippylink.Node.HeaterTask
import Klippylink.Host.DeviceManager
import Klippylink.Host.OtaHandler
import Klippylink.Host.Turns
import Klippylink.Host.FirmwareUpload
import Klippylink.Host.Reading
import Klippylink.Host.Stream
import Klippylink.Router.SerialBridge
import Klippylink.Host.Handlers
import Klippylink.Host.Builders
import Klippylink.Host.Api
import Klippylink.Host.Names
import Klippylink.Host.Radio
import Klippylink.Host.ApiServer
import Klippylink.Host.ZoneEditor
import Klippylink.Host.Page
import Klippylink.Host.HeartbeatMonitor
import Klippylink.Host.Emergency
import Klippylink.Host.Main
import Klippylink.Bridge.Line
import Klippylink.Bridge.Presence
import Klippylink.Bridge.Upload
import Klippylink.Bridge.Subscription
import Klippylink.Bridge.Fidelity
import Klippylink.Bridge.Senders
import Klippylink.Bridge.DeviceInfo
import Klippylink.Bridge.Endstops
import Klippylink.Bridge.Zones
import Klippylink.Bridge.Listing
import Klippylink.Bridge.Restoring
import Klippylink.Bridge.Shown
import Klippylink.Bridge.Editing
import Klippylink.Bridge.Preview
import Klippylink.Klipper.Extension
import Klippylink.Klipper.Requests
import Klippylink.Klipper.Runs
import Klippylink.Bridge.Atomicity
import Klippylink.Bridge.Advertising
import Klippylink.Bridge.Payloads
import Klippylink.Bridge.Noise
import Klippylink.Bridge.Uploads
import Klippylink.Bridge.Settings
import Klippylink.Bridge.SettingWrites
import Klippylink.Bridge.Heating
