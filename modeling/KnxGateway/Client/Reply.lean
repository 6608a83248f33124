import KnxGateway.Frame.Response

set_option autoImplicit false

/-! # Replies as a client shows them

A client shows each reply on a line of its own: a mark for success or error, the status of an
error, and the message. Blanks at the end of the line are dropped, so that a reply without a
message ends with its mark. -/

namespace KnxGateway

open Text

/-- A response together with the action of its frame. -/
structure Reply where
  action : Action
  body : Response
deriving DecidableEq

namespace Reply

/-- The frame of a reply, unless its payload is too long for one. -/
def frame (r : Reply) : Except FormatError (List UInt8) :=
  r.body.frame r.action

/-- The line that a client shows for a reply. -/
def render (r : Reply) : String :=
  let line :=
    if r.body.status.isSuccess then "[SUCCESS] " ++ r.body.message
    else "[ERROR] (" ++ r.body.status.text ++ "): " ++ r.body.message
  String.ofList (trimEnd line.toList)

end Reply

end KnxGateway
