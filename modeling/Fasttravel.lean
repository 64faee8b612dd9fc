import Fasttravel.Proto.Envelope
import Fasttravel.Proto.Helpers
import Fasttravel.Server.Messages
import Fasttravel.Server.ClientConnection
import Fasttravel.Client.MessageBroker
import Fasttravel.Server.Ordering
import Fasttravel.Server.HostedCospaces
import Fasttravel.Server.Lifecycle
import Fasttravel.Server.Routing
import Fasttravel.Server.ServicePool
import Fasttravel.Proto.Connection
import Fasttravel.Server.ConnectionService
import Fasttravel.Server.ServiceActor
import Fasttravel.Session
import Fasttravel.Server.WebsocketServer
