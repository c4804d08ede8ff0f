import EpollWebServer.Bytes
import EpollWebServer.Kernel
import EpollWebServer.Pool
import EpollWebServer.Request
import EpollWebServer.Write
import EpollWebServer.Loop
import EpollWebServer.Invariant
import EpollWebServer.Safety
import EpollWebServer.Counter
import EpollWebServer.ReadPath
import EpollWebServer.EdgeTriggered
import EpollWebServer.Stream
import EpollWebServer.RequestLine
import EpollWebServer.Args
import EpollWebServer.Service
import EpollWebServer.Pieces
import EpollWebServer.Lifecycle
import EpollWebServer.Draining
import EpollWebServer.ReadBack
import EpollWebServer.AcceptLoop
