import SimpleMuduo.TcpConnection.State

/-!
# The functions of the connection

The member functions of `TcpConnection` that run on the loop thread, and the part of `TcpServer`
and of `Channel::handleEventWithGuard` that drives them.  A function that calls user code in the
middle leaves the rest of its body in `todo`, so that whatever the user code does comes in
between.
-/

namespace SimpleMuduo

/-- The first `n` characters of a string. -/
def StdString.take (s : StdString) (n : ℕ) : StdString where
  data := s.data.take n
  size_le := (List.length_take_le' n s.data).trans s.size_le

namespace World

/-! ## Output -/

/-- `shutdownInLoop()`. -/
def shutdownInLoop (w : World) (k : Kernel) : World :=
  if w.channel_.isWriting then w else w.shutdownWrite k

/-- Bytes that `::write` has not taken go to `outputBuffer_`, and the channel asks for
`EPOLLOUT`. -/
def bufferOutput (w : World) (rest : Bytes) (remaining : ℕ) : World :=
  let oldLen := w.outputBuffer_.readableBytes
  let newLen := (oldLen + remaining) % 2 ^ 64
  let crosses := w.highWaterMark_ ≤ newLen ∧ oldLen < w.highWaterMark_ ∧ w.highWaterMarkCallback_
  ((w.queueIf crosses (.highWaterMarkCallback newLen)).appendOutput rest).ensureWriting

/-- The second half of `sendInLoop`. -/
def bufferRemaining (w : World) (data : StdString) (nwrote : ℕ) (remaining : ℤ) : World :=
  if 0 < remaining then
    w.bufferOutput ((data.data.drop nwrote).take remaining.toNat) remaining.toNat
  else w

/-- `sendInLoop(const void* data, size_t len)`.  In the state `kDisconnected` it only logs that
it gives up writing, and goes on.  `faultError` is assigned after `LOG_ERROR`, which does not
return, so it is still false wherever it is tested. -/
def sendInLoop (w : World) (call : ℕ) (data : StdString) (k : Kernel) : World :=
  let w := w.log (.sendInLoop call data.data)
  if w.channel_.isWriting = false ∧ w.outputBuffer_.readableBytes = 0 then
    let result := sysWrite k.write data.size
    let w := w.log (.write data.data result)
    match result with
    | .ok nwrote =>
      let remaining := toSsize (data.size - nwrote)
      let w := w.queueIf (remaining = 0 ∧ w.writeCompleteCallback_) .writeCompleteCallback
      w.bufferRemaining data nwrote remaining
    | .error errno =>
      if errno ≠ EWOULDBLOCK then w.abort
      else w.bufferRemaining data 0 (toSsize data.size)
  else w.bufferRemaining data 0 (toSsize data.size)

/-- `handleWrite()`. -/
def handleWrite (w : World) (k : Kernel) : World :=
  if w.channel_.isWriting then
    let result := sysWrite k.write w.outputBuffer_.readableBytes
    let w := w.log (.write w.outputBuffer_.readable result)
    match result with
    | .ok n =>
      if 0 < n then
        let w := w.retrieveOutput n
        if w.outputBuffer_.readableBytes = 0 then
          let w := w.disableWriting.queueIf w.writeCompleteCallback_ .writeCompleteCallback
          if w.state_ = .kDisconnecting then w.shutdownInLoop k else w
        else w
      else w
    | .error _ => w
  else w

/-! ## Input, errors and closing -/

/-- `handleClose()` up to and including `connectionCallback_`. -/
def handleClose (w : World) : World :=
  let w := (w.log .handleClose).setState .kDisconnected
  let w := w.disableAll
  let w := w.callback w.connectionCallback_ (.connectionCallback w.connected)
  w.continueWith .closeCallback

/-- `handleError()`: whatever `SO_ERROR` says is reported through `LOG_ERROR`. -/
def handleError (w : World) : World := w.abort

/-- `handleRead(Timestamp receiveTime)`. -/
def handleRead (w : World) (k : Kernel) : World :=
  match w.inputBuffer_.readFd k.readv with
  | .error _ => w.handleError
  | .ok (n, inputBuffer) =>
    let w := w.setInput inputBuffer
    if 0 < n then w.callback w.messageCallback_ .messageCallback else w.handleClose

/-- `forceCloseInLoop()`. -/
def forceCloseInLoop (w : World) : World :=
  if w.state_ = .kConnected ∨ w.state_ = .kDisconnecting then w.handleClose else w

/-! ## Life cycle -/

/-- `connectEstablished()`. -/
def connectEstablished (w : World) : World :=
  let w := w.setState .kConnected
  let w := { w with channel_ := w.channel_.enableReading }
  w.callback w.connectionCallback_ (.connectionCallback w.connected)

/-- `channel_->remove()`, after which `connectDestroyed` returns. -/
def removeChannel (w : World) : World :=
  { w with channel_ := w.channel_.remove }.log .connectDestroyedReturned

/-- `connectDestroyed()`. -/
def connectDestroyed (w : World) : World :=
  let w := w.log .connectDestroyed
  if w.state_ = .kConnected then
    let w := (w.setState .kDisconnected).disableAll
    let w := w.callback w.connectionCallback_ (.connectionCallback w.connected)
    w.continueWith .removeChannel
  else w.removeChannel

/-- `TcpServer::removeConnectionInLoop(conn)`. -/
def removeConnectionInLoop (w : World) : World :=
  { w with inConnections := false }.queueInLoop .connectDestroyed

/-- `closeCallback_(connPtr)`, which is bound to `TcpServer::removeConnection`. -/
def closeCallback (w : World) : World :=
  let w := w.log .closeCallback
  if w.serverAlive then
    if w.singleLoop then w.removeConnectionInLoop
    else { w with removePending := w.removePending + 1 }
  else { w with fault := some .useAfterFree }

/-- `~TcpServer()`, as far as the connection is concerned. -/
def destroyServer (w : World) : World :=
  let w := { w with serverAlive := false }
  if w.inConnections then
    let w := { w with inConnections := false }
    if w.singleLoop then w.continueWith .connectDestroyed else w.queueInLoop .connectDestroyed
  else w

/-! ## Calls on the loop thread -/

/-- `send(buf)` on the loop thread. -/
def loopSend (w : World) (buf : StdString) (k : Kernel) : World :=
  if w.state_ = .kConnected then
    let call := w.sendCalls
    let w := (w.callSend buf.data).sendInLoop call buf k
    if w.fault = none then w.log (.sendReturned call) else w
  else w

/-- `shutdown()` on the loop thread. -/
def loopShutdown (w : World) (k : Kernel) : World :=
  if w.state_ = .kConnected then
    ((w.log .shutdownCalled).setState .kDisconnecting).shutdownInLoop k
  else w

/-- `forceClose()` on the loop thread. -/
def loopForceClose (w : World) : World :=
  if w.state_ = .kConnected ∨ w.state_ = .kDisconnecting then
    (w.setState .kDisconnecting).queueInLoop .forceCloseInLoop
  else w

/-! ## The event loop -/

/-- The callbacks that `handleEventWithGuard` makes for `revents_`, in their order. -/
def callbacksFor (revents : EventMask) : List Call :=
  (if revents &&& EPOLLHUP ≠ 0#32 ∧ revents &&& EPOLLIN = 0#32 then [.handleClose] else []) ++
  (if revents &&& EPOLLERR ≠ 0#32 then [.handleError] else []) ++
  (if revents &&& (EPOLLIN ||| EPOLLPRI) ≠ 0#32 then [.handleRead] else []) ++
  (if revents &&& EPOLLOUT ≠ 0#32 then [.handleWrite] else [])

/-- `Channel::handleEvent`: the guard object exists, and its callbacks are made one by one. -/
def handleEvent (w : World) : World :=
  { w with active := false, todo := callbacksFor w.channel_.channel.revents_ }

/-- The next thing the loop thread is in the middle of. -/
def runCall (w : World) (c : Call) (k : Kernel) : World :=
  match c with
  | .handleClose => w.handleClose
  | .handleError => w.handleError
  | .handleRead => w.handleRead k
  | .handleWrite => w.handleWrite k
  | .closeCallback => w.closeCallback
  | .connectDestroyed => w.connectDestroyed
  | .removeChannel => w.removeChannel

/-- A functor that `doPendingFunctors` runs.  The user callbacks do not touch the connection
except through the calls above. -/
def runFunctor (w : World) (f : Functor) (k : Kernel) : World :=
  match f with
  | .sendInLoop call buf len => w.sendInLoop call ((w.strings buf).take len) k
  | .shutdownInLoop => w.shutdownInLoop k
  | .forceCloseInLoop => w.forceCloseInLoop
  | .connectDestroyed => w.connectDestroyed
  | .writeCompleteCallback => w
  | .highWaterMarkCallback _ => w

end World

end SimpleMuduo
