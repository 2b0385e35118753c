import SimpleMuduo.Foundation.SlotTable
import SimpleMuduo.Foundation.TransitionSystem
import SimpleMuduo.Kernel

/-!
# The acceptor and the descriptors of the process

`Acceptor::handleRead` with the descriptors of the process, of which there is a fixed number, and
the listen queue.  When `accept` fails because no descriptor is free, the handler gives up the one
that it holds in reserve, accepts the connection with it, closes it, and opens `/dev/null` to have a
reserve again.

While the handler runs, other threads may close descriptors of theirs before each of its system
calls, and connections may arrive; outside the handler other parts of the program may also open
descriptors.
-/

namespace SimpleMuduo

open SlotTable

/-- Too many open files in this process. -/
def EMFILE : Errno := 24

/-- What a descriptor refers to. -/
inductive DescriptorFile
  /-- The socket of `acceptSocket_`. -/
  | listening
  /-- `/dev/null`, opened by the acceptor. -/
  | devNull
  | connection
  /-- A file of another part of the program. -/
  | other
  deriving DecidableEq, Repr

/-- An error that has nothing to do with the descriptors of the process. -/
abbrev OtherErrno := { e : Errno // e ≠ EMFILE }

/-- `simple_muduo::Acceptor`, the descriptors of the process, and the number of connections in the
listen queue.  Not in the source: how many descriptors other parts of the program have closed. -/
structure Acceptor where
  /-- `NewConnectionCallback_` is set. -/
  newConnectionCallback : Bool
  idleFd_ : ℤ
  descriptors : List (Option DescriptorFile)
  pending : ℕ
  othersClosed : ℕ
  deriving DecidableEq

/-- What happens around a call of `handleRead`: why its calls of `accept` fail although a descriptor
is free, if they do, the descriptors that other threads close before each of the other calls, and
the connections that arrive before the second `accept`. -/
structure HandlerEnv where
  first : Option OtherErrno
  second : Option OtherErrno
  beforeClose : List ℕ
  beforeAccept : List ℕ
  beforeCloseAgain : List ℕ
  beforeOpen : List ℕ
  arrivals : ℕ

namespace Acceptor

/-! ## System calls -/

/-- `::close(fd)`. -/
def close (a : Acceptor) : ℤ → Acceptor
  | .ofNat n => { a with descriptors := a.descriptors.set n none }
  | .negSucc _ => a

/-- `::open("/dev/null", O_RDONLY | O_CLOEXEC)`, which fails only when no descriptor is free. -/
def openDevNull (a : Acceptor) : ℤ × Acceptor :=
  match firstFree a.descriptors with
  | some n => (n, { a with descriptors := a.descriptors.set n (some .devNull) })
  | none => (-1, a)

/-- `::accept` on the listening socket, which does not block. -/
def accept (a : Acceptor) (failure : Option OtherErrno) : Except Errno ℕ × Acceptor :=
  match firstFree a.descriptors, failure, a.pending with
  | none, _, _ => (.error EMFILE, a)
  | some _, some e, _ => (.error e, a)
  | some _, none, 0 => (.error EWOULDBLOCK, a)
  | some n, none, pending + 1 =>
    (.ok n, { a with
      descriptors := a.descriptors.set n (some .connection)
      pending := pending })

/-- The `int` that `::accept` returns. -/
def toFd : Except Errno ℕ → ℤ
  | .ok n => n
  | .error _ => -1

/-! ## The other parts of the program -/

/-- Another part of the program closes the descriptor `n`, if it is one of its own. -/
def closeOther (a : Acceptor) (n : ℕ) : Acceptor :=
  if (a.descriptors[n]? = some (some .connection) ∨ a.descriptors[n]? = some (some .other)) ∧
      (n : ℤ) ≠ a.idleFd_ then
    { a with
      descriptors := a.descriptors.set n none
      othersClosed := a.othersClosed + 1 }
  else a

/-- Other parts of the program close descriptors, one after the other. -/
def closeOthers (a : Acceptor) (ns : List ℕ) : Acceptor := ns.foldl closeOther a

/-- Another part of the program opens a file. -/
def openOther (a : Acceptor) : Option Acceptor :=
  (firstFree a.descriptors).map fun n =>
    { a with descriptors := a.descriptors.set n (some .other) }

/-- Clients connect. -/
def connect (a : Acceptor) (arrivals : ℕ) : Acceptor := { a with pending := a.pending + arrivals }

/-! ## `Acceptor` -/

/-- `Acceptor(EventLoop* loop, const InetAddress& listenAddr, bool reuseport)` in a process with
these descriptors, where `devNullHere` tells whether there is a file `dev/null` in the working
directory.  Without a descriptor for the socket `LOG_ERROR` ends the process. -/
def new (descriptors : List (Option DescriptorFile)) (devNullHere newConnectionCallback : Bool) :
    Option Acceptor :=
  (firstFree descriptors).map fun n =>
    let a : Acceptor :=
      { newConnectionCallback := newConnectionCallback
        idleFd_ := -1
        descriptors := descriptors.set n (some .listening)
        pending := 0
        othersClosed := 0 }
    if devNullHere then { a.openDevNull.2 with idleFd_ := a.openDevNull.1 } else a

/-- The branch of `handleRead` for `errno == EMFILE`. -/
def handleExhaustion (a : Acceptor) (env : HandlerEnv) : Acceptor :=
  let a := a.closeOthers env.beforeClose
  let a := a.close a.idleFd_
  let a := (a.closeOthers env.beforeAccept).connect env.arrivals
  let (connfd, a) := a.accept env.second
  let a := { a with idleFd_ := toFd connfd }
  let a := a.closeOthers env.beforeCloseAgain
  let a := a.close a.idleFd_
  let a := a.closeOthers env.beforeOpen
  let (idleFd, a) := a.openDevNull
  { a with idleFd_ := idleFd }

/-- `handleRead()`.  A connection that is passed to `NewConnectionCallback_` belongs to the rest of
the program. -/
def handleRead (a : Acceptor) (env : HandlerEnv) : Acceptor :=
  match a.accept env.first with
  | (.ok connfd, a) => if a.newConnectionCallback then a else a.close connfd
  | (.error errno, a) => if errno = EMFILE then a.handleExhaustion env else a

end Acceptor

/-- What happens next. -/
inductive AcceptorEvent
  /-- The listening socket is readable, and `handleRead` is called. -/
  | handleRead (env : HandlerEnv)
  /-- Another part of the program opens a file. -/
  | openOther
  /-- Another part of the program closes a descriptor. -/
  | closeOther (n : ℕ)
  /-- A client connects. -/
  | connect

namespace Acceptor

/-- One step. -/
def step (a : Acceptor) : AcceptorEvent → Option Acceptor
  | .handleRead env => some (a.handleRead env)
  | .openOther => a.openOther
  | .closeOther n => some (a.closeOther n)
  | .connect => some (a.connect 1)

end Acceptor

end SimpleMuduo
