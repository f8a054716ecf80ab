import AddonCheck.Dns.Message
import AddonCheck.Duration

/-
This file looks up the addresses of a host. Only the server that was asked is listened to, and every
receive waits for the timeout anew.
-/

namespace AddonCheck.Dns

/-- An end of an exchange of datagrams. Two ends are the same when all their parts are. -/
inductive Endpoint where
  | v4 (address : Address) (port : UInt16)
  | v6 (address : BitVec 128) (port : UInt16) (flow scope : UInt32)
  deriving DecidableEq, Repr, Inhabited

/-- Any address of the same kind, and a port that the system chooses. -/
def Endpoint.unspecified : Endpoint → Endpoint
  | v4 _ _ => .v4 ⟨0, 0, 0, 0⟩ 0
  | v6 _ _ _ _ => .v6 0 0 0 0

/-- The server that is asked, and how long a receive waits. -/
structure Resolver where
  server : Endpoint
  timeout : Duration
  deriving DecidableEq, Repr, Inhabited

def defaultTimeout : Duration := .ofSeconds 5

def publicResolver : Resolver := ⟨.v4 ⟨8, 8, 8, 8⟩ 53, defaultTimeout⟩

/-- A datagram, and how long after the datagram before it, or after the question, it arrives. -/
structure Datagram where
  sender : Endpoint
  bytes : Bytes
  delay : Duration
  deriving DecidableEq, Repr, Inhabited

/-- The bytes of a datagram beyond this number are lost. -/
def maximumDatagram : Nat := 4096

/-- The bytes that are received of a datagram. -/
def received (bytes : Bytes) : Bytes := bytes.take maximumDatagram

/-- How names and messages are written, and why they cannot be. -/
structure Codec where
  readName : String → Except String Name
  writeQuestion : UInt16 → Name → Except String Bytes
  readMessage : Bytes → Except String Message

/-- Names and messages as they are written on the network. -/
def Codec.network : Codec where
  readName host := (Name.read? host).elim (.error "the name cannot be read") .ok
  writeQuestion id name := .ok (question id name)
  readMessage bytes := (Message.decode? bytes).elim (.error "the message cannot be read") .ok

/-- What the system does for the socket of a lookup. -/
structure Socket where
  /-- Binds the socket to an end of its own. -/
  bind : Endpoint → Except String Unit
  /-- Sends a message to the other end. -/
  send : Bytes → Endpoint → Except String Unit
  /-- Why a receive fails that has waited in vain. -/
  silence : String

/-- A socket that is bound and sends. -/
def Socket.working : Socket where
  bind _ := .ok ()
  send _ _ := .ok ()
  silence := "no answer"

/-- The message that asks for the addresses of a host. -/
def Codec.query (codec : Codec) (host : String) (id : UInt16) : Except Error Bytes := do
  let name ← (codec.readName host).mapError (.invalidName host)
  (codec.writeQuestion id name).mapError .malformed

/-- What the answer of the server says. -/
def Codec.judge (codec : Codec) (id : UInt16) (bytes : Bytes) : Except Error (List Address) := do
  let message ← (codec.readMessage bytes).mapError .malformed
  if message.id = id then .ok message.addresses
  else .error (.malformed s!"response id {message.id} does not match query id {id}")

namespace Resolver

/-- A receive cannot wait for no time. -/
def limit (resolver : Resolver) : Except String Unit :=
  if resolver.timeout.nanos = 0 then .error "cannot set a 0 duration timeout" else .ok ()

/-- Sends a message to the server, from a socket whose receives are limited. -/
def ask (resolver : Resolver) (socket : Socket) (message : Bytes) : Except String Unit := do
  socket.bind resolver.server.unspecified
  resolver.limit
  socket.send message resolver.server

/-- What is received of the first datagram of the server. Datagrams of other senders are passed
over, and after each of them the wait starts again. -/
def receive (resolver : Resolver) (silence : String) : List Datagram → Except String Bytes
  | [] => .error silence
  | datagram :: rest =>
      if resolver.timeout.nanos < datagram.delay.nanos then .error silence
      else if datagram.sender = resolver.server then .ok (received datagram.bytes)
      else resolver.receive silence rest

end Resolver

/-- What a lookup sends, and to whom, and what it finds. -/
structure Lookup where
  sent : Option (Bytes × Endpoint)
  result : Except Error (List Address)

/-- The addresses of a host, from the first datagram of the server among those that arrive. -/
def Codec.lookup (codec : Codec) (resolver : Resolver) (socket : Socket) (host : String)
    (id : UInt16) (arriving : List Datagram) : Lookup :=
  match codec.query host id with
  | .error error => ⟨none, .error error⟩
  | .ok message =>
      match resolver.ask socket message with
      | .error reason => ⟨none, .error (.io reason)⟩
      | .ok () =>
          { sent := some (message, resolver.server)
            result := do
              let bytes ← (resolver.receive socket.silence arriving).mapError .io
              codec.judge id bytes }

/-- The lookup on the network. -/
def lookup (resolver : Resolver) (host : String) (id : UInt16) (arriving : List Datagram) :
    Lookup :=
  Codec.network.lookup resolver .working host id arriving

end AddonCheck.Dns
