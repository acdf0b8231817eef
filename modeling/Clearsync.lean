import Clearsync.Client
import Clearsync.Timer.Basic
import Clearsync.Timer.Tick
import Clearsync.Timer.Registry
import Clearsync.Timer.Lifetime
import Clearsync.Select.Basic
import Clearsync.Select.Latch
import Clearsync.Select.History
import Clearsync.Select.Interest
import Clearsync.Main.Filter
import Clearsync.Main.Dispatch
import Clearsync.Main.Routing
import Clearsync.Main.StackSize
import Clearsync.Netlink.Basic
import Clearsync.Netlink.Message
import Clearsync.Netlink.Request
import Clearsync.Netlink.Reply
import Clearsync.Netlink.Delivery
import Clearsync.Netlink.Sequence
import Clearsync.Netlink.Copy
import Clearsync.Netlink.RouteWatch
import Clearsync.Netlink.Targets
import Clearsync.Netlink.Erase
