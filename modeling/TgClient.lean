import TgClient.TL
import TgClient.Decode.Buf
import TgClient.Decode.Object
import TgClient.Decode.Sticky
import TgClient.Decode.Encode
import TgClient.Decode.Frames
import TgClient.Dispatch.State
import TgClient.Dispatch.Process
import TgClient.Dispatch.Replies
import TgClient.Dispatch.Pending
import TgClient.Dispatch.Effects
import TgClient.Mux.Machine
import TgClient.Mux.Channels
import TgClient.Mux.Delivery
import TgClient.Mux.Reconnect
import TgClient.Mux.Backlog
import TgClient.Session.Store
import TgClient.Session.Connect
import TgClient.Session.Persist
