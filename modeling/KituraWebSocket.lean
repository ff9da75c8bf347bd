import KituraWebSocket.Support.BoundedLoop
import KituraWebSocket.Support.CheckThenAct
import KituraWebSocket.Support.FairSchedule
import KituraWebSocket.Support.FallibleRun
import KituraWebSocket.Support.Family
import KituraWebSocket.Support.Transducer
import KituraWebSocket.Support.BigEndian
import KituraWebSocket.Support.PrefixCode
import KituraWebSocket.Support.CriticalSection
import KituraWebSocket.Foundation
import KituraWebSocket.Reasons
import KituraWebSocket.WSFrame
import KituraWebSocket.WSFrameParser
import KituraWebSocket.WSSocketProcessor
import KituraWebSocket.WebSocketConnection
import KituraWebSocket.Receive.Scanner
import KituraWebSocket.Receive.ParserParts
import KituraWebSocket.Receive.Pieces
import KituraWebSocket.Receive.ParserLoop
import KituraWebSocket.Receive.ProcessLoop
import KituraWebSocket.Receive.Chunking
import KituraWebSocket.Receive.Cursor
import KituraWebSocket.Grammar
import KituraWebSocket.Receive.Decoding
import KituraWebSocket.Receive.Safety
import KituraWebSocket.Receive.AfterError
import KituraWebSocket.Receive.LongLength
import KituraWebSocket.Send.Completion
import KituraWebSocket.Send.Header
import KituraWebSocket.Send.Stream
import KituraWebSocket.Send.Lengths
import KituraWebSocket.Send.Senders
import KituraWebSocket.Connection.Effects
import KituraWebSocket.Connection.Assembly
import KituraWebSocket.Connection.Runs
import KituraWebSocket.Connection.CloseFrames
import KituraWebSocket.Connection.ControlFrames
import KituraWebSocket.Connection.Callbacks
import KituraWebSocket.Connection.Handshake
import KituraWebSocket.Connection.Closing
import KituraWebSocket.Connection.Integrity
import KituraWebSocket.Connection.Policing
import KituraWebSocket.Connection.Silence
import KituraWebSocket.Connection.Stops
import KituraWebSocket.Connection.Timeout
import KituraWebSocket.WSConnectionUpgradeFactory
import KituraWebSocket.Upgrade.Registry
import KituraWebSocket.Session.Outgoing
import KituraWebSocket.Session.Run
import KituraWebSocket.Session.Service
import KituraWebSocket.Session.Backlog
import KituraWebSocket.Session.Callbacks
import KituraWebSocket.Support.SerialQueue
import KituraWebSocket.Session.Endpoint
import KituraWebSocket.Session.Delivery
import KituraWebSocket.Session.Conversation
import KituraWebSocket.Session.Client
import KituraWebSocket.Server.Clients
import KituraWebSocket.Server.Stops
import KituraWebSocket.Session.Races
