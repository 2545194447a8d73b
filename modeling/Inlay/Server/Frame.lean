import Inlay.Json.Writer
import Inlay.Server.Basic

/-!
# Messages on the wire

The editor and the server exchange JSON messages, each after a header that gives
its length in bytes.  A message with an id is a request and gets a response with
the same id; any other message is a notification.
-/

namespace Inlay

namespace Frame

/-- The header that gives the length of a message. -/
def lengthHeader : String := "Content-Length: "

/-- The length a header line gives; other headers give none. -/
def length? (line : String) : Option Nat :=
  if line.startsWith lengthHeader then
    Settings.number? (Text.trim (String.ofList (line.toList.drop lengthHeader.length)))
  else none

/-- A message with its header. -/
def render (message : Json) : String :=
  let body := message.render
  lengthHeader ++ toString body.utf8ByteSize ++ "\r\n\r\n" ++ body

end Frame

/-- A message of this version of the protocol with the given members. -/
def rpcMessage (members : List (String × Json)) : Json :=
  .ofMembers (("jsonrpc", .str "2.0") :: members)

/-- The response to the request with an id. -/
def Answer.response (id : Json) : Answer → Json
  | .result value => rpcMessage [("id", id), ("result", value)]
  | .error code message =>
      rpcMessage [("id", id),
        ("error", .ofMembers [("code", .int code), ("message", .str message)])]

/-- The notification that makes an announcement. -/
def Announcement.notification (announcement : Announcement) : Json :=
  rpcMessage [("method", .str announcement.method), ("params", announcement.params)]

/-- The method of a message. -/
def messageMethod? (message : Json) : Option String := (message.get? "method").bind Json.text?

/-- Handles a message and returns the messages to send. -/
def Server.handle (server : Server σ) (message : Json) : Server σ × List Json :=
  match messageMethod? message, message.get? "id" with
  | none, _ => (server, [])
  | some method, some id =>
      let (server, answer) := server.request method (message.get? "params")
      (server, answer.toList.map (Answer.response id))
  | some method, none =>
      let (server, announcements) := server.notify method ((message.get? "params").getD .null)
      (server, announcements.map Announcement.notification)

end Inlay
