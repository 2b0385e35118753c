import SimpleMuduo.Connector.State

/-!
# The client

`TcpClient` of `TcpClient.cpp` with its `Connector`.  The state of the client is the user state of
the connector, and `newConnectionCallback_` is what the constructor of `TcpClient` binds: a call of
`TcpClient::newConnection` whose argument is the number one, whatever descriptor the connector
passes.

Of a `TcpConnection` the client decides which descriptor it wraps and when it is destroyed; what
happens on the connection in between is not modelled here.
-/

namespace SimpleMuduo

/-- How far a `TcpConnection` of the client has got. -/
inductive ClientConnectionPhase
  /-- `connectEstablished` has been called. -/
  | established
  /-- `removeConnection` has been called, and `connectDestroyed` is queued. -/
  | removed
  /-- `connectDestroyed` has been called. -/
  | disconnected
  /-- The last reference is gone, and `~Socket` has closed the descriptor. -/
  | destroyed
  deriving DecidableEq, Repr

/-- A `TcpConnection` of the client: the descriptor that its `Socket` and its `Channel` wrap. -/
structure ClientConnection where
  sockfd : Fd
  phase : ClientConnectionPhase
  deriving DecidableEq, Repr

/-- The members of `TcpClient` next to the connector, the connections it has created, oldest first,
and a record of the descriptors: those the connector has passed to `newConnectionCallback_`, oldest
first, and those that were closed, with the connection that did it. -/
structure TcpClient where
  retry_ : Bool
  connect_ : Bool
  /-- The index of the connection in `connection_`. -/
  connection_ : Option ℕ
  connections : List ClientConnection
  handedOver : List Fd
  closings : List (ℕ × Fd)
  deriving DecidableEq

namespace TcpClient

/-- `TcpClient(EventLoop* loop, const InetAddress& serverAddr, const std::string& nameArg)`. -/
def new : TcpClient where
  retry_ := false
  connect_ := true
  connection_ := none
  connections := []
  handedOver := []
  closings := []

/-- `newConnection(int sockfd)`. -/
def newConnection (u : TcpClient) (sockfd : Fd) : TcpClient :=
  { u with
    connection_ := some u.connections.length
    connections := u.connections ++ [⟨sockfd, .established⟩] }

/-- `std::bind(&TcpClient::newConnection, this, 1)`, called by the connector with `sockfd`. -/
def newConnectionCallback_ (sockfd : Fd) (u : TcpClient) : TcpClient :=
  { u with handedOver := u.handedOver ++ [sockfd] }.newConnection 1

/-- The connection `i` is in the given phase from now on. -/
def setPhase (u : TcpClient) (i : ℕ) (phase : ClientConnectionPhase) : TcpClient :=
  { u with connections := u.connections.modify i fun conn => { conn with phase := phase } }

/-- `~Socket` of the connection `i` closes the descriptor. -/
def closeSocket (u : TcpClient) (i : ℕ) (sockfd : Fd) : TcpClient :=
  { u.setPhase i .destroyed with closings := (i, sockfd) :: u.closings }

/-- The phase of the connection `i`. -/
def phase? (u : TcpClient) (i : ℕ) : Option ClientConnectionPhase :=
  u.connections[i]?.map ClientConnection.phase

end TcpClient

/-- A client and its connector. -/
abbrev ClientSystem := Connector TcpClient

/-- What happens next. -/
inductive TcpClientEvent
  /-- `enableRetry()`. -/
  | enableRetry
  /-- `connect()` on the loop's thread. -/
  | connect (attempts : List ConnectAttempt)
  /-- `stop()` on the loop's thread. -/
  | stop
  /-- `disconnect()`, whose `shutdown` leaves the descriptor of the connection open. -/
  | disconnect
  /-- Another thread stores `connect_` in `connect()`, `stop()` or `disconnect()`. -/
  | setConnect (b : Bool)
  /-- A step of the connector, or of another thread in `start()` or `stop()` of the connector. -/
  | connector (e : ConnectorEvent)
  /-- `closeCallback_` of the connection in `connection_`. -/
  | removeConnection (attempts : List ConnectAttempt)
  /-- `connectDestroyed` of the connection `i`. -/
  | connectDestroyed (i : ℕ)
  /-- The last reference to the connection `i` is dropped. -/
  | destroy (i : ℕ)
  deriving DecidableEq

namespace ClientSystem

/-- A new client. -/
def new : ClientSystem := Connector.new TcpClient.new

/-- The member function changes the client only. -/
def withUser (s : ClientSystem) (u : TcpClient) : ClientSystem := { s with user := u }

/-- `removeConnection(conn)`, where `conn` is the connection `i`. -/
def removeConnection (s : ClientSystem) (i : ℕ) (attempts : List ConnectAttempt) :
    Option ClientSystem :=
  let s := s.withUser { s.user.setPhase i .removed with connection_ := none }
  if s.user.retry_ && s.user.connect_ then s.outcome (s.restart attempts) else some s

/-- `~TcpConnection` of the connection `i`, whose `socket_` closes its descriptor. -/
def destroy (s : ClientSystem) (i : ℕ) (conn : ClientConnection) : ClientSystem :=
  withUser (s.setDescriptor conn.sockfd none) (s.user.closeSocket i conn.sockfd)

/-- The steps of the connector that the client does not take itself.  Only foreign files are closed
by somebody else. -/
def connectorMayStep (s : ClientSystem) : ConnectorEvent → Bool
  | .start _ | .stop | .restart _ => false
  | .closeOther fd => s.descriptors fd = some .other
  | _ => true

/-- One step of the client. -/
def stepRunning (s : ClientSystem) : TcpClientEvent → Option ClientSystem
  | .enableRetry => some (s.withUser { s.user with retry_ := true })
  | .connect attempts =>
    Connector.step TcpClient.newConnectionCallback_ (s.withUser { s.user with connect_ := true })
      (.start attempts)
  | .stop =>
    Connector.step TcpClient.newConnectionCallback_ (s.withUser { s.user with connect_ := false })
      .stop
  | .disconnect => some (s.withUser { s.user with connect_ := false })
  | .setConnect b => some (s.withUser { s.user with connect_ := b })
  | .connector e =>
    if s.connectorMayStep e then Connector.step TcpClient.newConnectionCallback_ s e else none
  | .removeConnection attempts =>
    match s.user.connection_ with
    | some i =>
      if s.callbacks = [] ∧ s.user.phase? i = some .established then
        s.removeConnection i attempts
      else none
    | none => none
  | .connectDestroyed i =>
    if s.user.phase? i = some .removed then
      some (s.withUser (s.user.setPhase i .disconnected))
    else none
  | .destroy i =>
    match s.user.connections[i]? with
    | some conn => if conn.phase = .disconnected then some (s.destroy i conn) else none
    | none => none

/-- One step: nothing happens any more after a fault. -/
def step (s : ClientSystem) (e : TcpClientEvent) : Option ClientSystem :=
  match s.fault with
  | none => s.stepRunning e
  | some _ => none

end ClientSystem

end SimpleMuduo
