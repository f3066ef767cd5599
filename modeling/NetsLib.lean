import NetsLib.Packet
import NetsLib.Queue
import NetsLib.Transport.Basic
import NetsLib.Transport.Run
import NetsLib.Transport.Validity
import NetsLib.Transport.RateLimit
import NetsLib.Transport.ErrorCallback
import NetsLib.Transport.Fifo
import NetsLib.Transport.Accounting
import NetsLib.Transport.Stop
import NetsLib.Transport.ClearQueue
import NetsLib.Transport.Tagged
import NetsLib.Transport.Throughput
import NetsLib.Transport.Progress
import NetsLib.Adapter.Serial
import NetsLib.Adapter.Lifecycle
import NetsLib.Adapter.Send
