import Sudonit.Core.Octets
import Sudonit.Core.Stream
import Sudonit.Core.Effect
import Sudonit.Core.Relational
import Sudonit.Core.Writing
import Sudonit.Core.Frames
import Sudonit.Core.Cuts
import Sudonit.Core.CText
import Sudonit.Core.Utf8
import Sudonit.Core.Sha256
import Sudonit.Core.Chunks
import Sudonit.Core.Words
import Sudonit.Core.Lines
import Sudonit.Core.Paths
import Sudonit.Core.Slots
import Sudonit.Core.Registers
import Sudonit.Python.Value
import Sudonit.Python.Json
import Sudonit.Python.JsonLaws
import Sudonit.Python.Paths
import Sudonit.Protocol.Errors
import Sudonit.Protocol.Framing
import Sudonit.Protocol.Sha256C
import Sudonit.Protocol.JsonC
import Sudonit.Protocol.MessagesPy
import Sudonit.Protocol.MessagesC
import Sudonit.Protocol.StringReader
import Sudonit.Protocol.ControlText
import Sudonit.Protocol.Lookup
import Sudonit.Protocol.Classification
import Sudonit.Protocol.RoundTrip
import Sudonit.Protocol.Truncation
import Sudonit.Protocol.Numbers
import Sudonit.Protocol.Reassembly
import Sudonit.Protocol.Senders
import Sudonit.Protocol.AudioTransfer
import Sudonit.Protocol.AudioBounds
import Sudonit.Phone.Server
import Sudonit.Phone.Session
import Sudonit.Phone.Hardening
import Sudonit.Phone.Image
import Sudonit.Phone.Uplink
import Sudonit.Phone.Pipeline
import Sudonit.Phone.Arrival
import Sudonit.Phone.Replies
import Sudonit.Device.Playback
import Sudonit.Device.Format
import Sudonit.Device.Uplink
import Sudonit.Device.Turn
import Sudonit.Phone.Answer
import Sudonit.Device.Delivery
import Sudonit.Device.Completion
import Sudonit.Device.Conversation
import Sudonit.Device.Latency
import Sudonit.Device.Config
import Sudonit.Device.Store
import Sudonit.Device.Provisioning
import Sudonit.Device.ConfigRuns
import Sudonit.Device.SetLine
import Sudonit.Device.Settings
import Sudonit.Device.Secrecy
import Sudonit.Device.Repl
import Sudonit.Device.ConfigCli
import Sudonit.Device.Network
import Sudonit.Device.Credentials
import Sudonit.Device.Transport
import Sudonit.Device.Camera
import Sudonit.Device.Boot
import Sudonit.Device.FirstTurn
import Sudonit.Device.SelfTest
