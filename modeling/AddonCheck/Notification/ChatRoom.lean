import AddonCheck.Environment
import AddonCheck.Http
import AddonCheck.Notification

/-
This file holds the chat room to which notifications are posted.
-/

namespace AddonCheck.Notification

/-- The token, the room and the site of a chat service. -/
structure ChatRoom where
  token : String
  room : String
  /-- A host, or the start of an address with its scheme. -/
  site : String
  deriving DecidableEq, Repr, Inhabited

namespace ChatRoom

def defaultSite : String := "api.chatwork.com"

/-- There is a chat room when both the token and the room are set. -/
def ofEnvironment (environment : Environment) : Option ChatRoom := do
  return {
    token := ← environment.value? "CHATWORK_API_TOKEN"
    room := ← environment.value? "CHATWORK_ROOM_ID"
    site := environment.valueOr "CHATWORK_SITE" defaultSite }

def address (chatRoom : ChatRoom) : String :=
  let base := Http.baseAddress "https://" chatRoom.site
  s!"{base}/v2/rooms/{chatRoom.room}/messages"

/-- The request that posts a message. -/
def request (chatRoom : ChatRoom) (message : String) : Http.Request :=
  { method := .post
    path := chatRoom.address
    headers :=
      [("X-ChatWorkToken", Http.trimHeader chatRoom.token),
       ("Content-Type", "application/x-www-form-urlencoded")]
    body := .form (Http.form [("body", message)]) }

/-- Posts a message. A token that is no header is not sent. -/
def deliver {σ : Type} (chatRoom : ChatRoom) (exchange : Http.Exchange σ) (message : String) :
    StateM σ (Except Error Unit) := do
  if Http.isHeaderValue chatRoom.token then
    match ← exchange (chatRoom.request message) with
    | some response =>
        return if response.isSuccess then .ok () else .error (.status response.status)
    | none => return .error (.send "no answer")
  else return .error (.send "the token cannot be sent")

end ChatRoom

end AddonCheck.Notification
