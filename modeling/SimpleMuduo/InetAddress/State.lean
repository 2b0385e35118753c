import SimpleMuduo.Foundation.DecimalText
import SimpleMuduo.Kernel

/-!
# Socket addresses

`InetAddress` is a union of a `sockaddr_in` and a `sockaddr_in6`, and the functions of `sockets`
look at its family to know which of the two it is.  The texts of the addresses come from
`inet_ntop(3)` and `inet_pton(3)`, which are parameters here.  The machine is little-endian.
-/

namespace SimpleMuduo

/-- `AF_INET` and `AF_INET6`. -/
def AF_INET : BitVec 16 := 2
def AF_INET6 : BitVec 16 := 10

/-- `INET_ADDRSTRLEN` and `INET6_ADDRSTRLEN`, with the terminating zero. -/
def INET_ADDRSTRLEN : ℕ := 16
def INET6_ADDRSTRLEN : ℕ := 46

/-- The conversions of addresses to and from text. -/
structure InetText where
  ntop4 : BitVec 32 → Bytes
  pton4 : Bytes → Option (BitVec 32)
  ntop6 : BitVec 128 → Bytes
  pton6 : Bytes → Option (BitVec 128)

/-- What is documented of them: a text can be read back, fits into a buffer of the documented size,
is a string of C, and has colons exactly for the second family. -/
structure InetText.Lawful (inet : InetText) : Prop where
  pton4_ntop4 : ∀ a, inet.pton4 (inet.ntop4 a) = some a
  pton6_ntop6 : ∀ a, inet.pton6 (inet.ntop6 a) = some a
  length_ntop4 : ∀ a, (inet.ntop4 a).length < INET_ADDRSTRLEN
  length_ntop6 : ∀ a, (inet.ntop6 a).length < INET6_ADDRSTRLEN
  zero_notMem_ntop4 : ∀ a, 0 ∉ inet.ntop4 a
  zero_notMem_ntop6 : ∀ a, 0 ∉ inet.ntop6 a
  colon_notMem_ntop4 : ∀ a, ':'.toUInt8 ∉ inet.ntop4 a
  colon_mem_ntop6 : ∀ a, ':'.toUInt8 ∈ inet.ntop6 a

/-- `simple_muduo::InetAddress`.  Where the two members of the union lie on each other they share a
field. -/
structure InetAddress where
  /-- `sin_family` and `sin6_family`. -/
  sin_family : BitVec 16
  /-- `sin_port` and `sin6_port`. -/
  sin_port : BitVec 16
  /-- `sin_addr.s_addr` and `sin6_flowinfo`. -/
  s_addr : BitVec 32
  /-- `sin_zero` and the first half of `sin6_addr`. -/
  sin_zero : BitVec 64
  /-- The second half of `sin6_addr`. -/
  sin6_addr_low : BitVec 64
  sin6_scope_id : BitVec 32
  deriving DecidableEq, Repr

namespace sockets

/-- `hostToNetwork16(uint16_t host16)`. -/
def hostToNetwork16 (host16 : BitVec 16) : BitVec 16 := host16.rotateLeft 8

/-- `networkToHost16(uint16_t net16)`. -/
def networkToHost16 (net16 : BitVec 16) : BitVec 16 := net16.rotateLeft 8

/-- `hostToNetwork32(uint32_t host32)`. -/
def hostToNetwork32 (host32 : BitVec 32) : BitVec 32 :=
  host32.extractLsb' 0 8 ++ host32.extractLsb' 8 8 ++ host32.extractLsb' 16 8 ++
    host32.extractLsb' 24 8

end sockets

namespace InetAddress

variable (inet : InetText)

/-- `memset(&addr6_, 0, sizeof addr6_)`. -/
def zero : InetAddress where
  sin_family := 0
  sin_port := 0
  s_addr := 0
  sin_zero := 0
  sin6_addr_low := 0
  sin6_scope_id := 0

/-- `memset(&addr_, 0, sizeof addr_)`, which leaves the rest of the memory as it was. -/
def zeroAddr (a : InetAddress) : InetAddress :=
  { a with sin_family := 0, sin_port := 0, s_addr := 0, sin_zero := 0 }

/-- `sin6_addr`, the first byte being the most significant one. -/
def sin6_addr (a : InetAddress) : BitVec 128 := a.sin_zero ++ a.sin6_addr_low

/-- `sin6_addr = addr`. -/
def setSin6Addr (a : InetAddress) (addr : BitVec 128) : InetAddress :=
  { a with sin_zero := addr.extractLsb' 64 64, sin6_addr_low := addr.extractLsb' 0 64 }

/-- `INADDR_ANY` and `INADDR_LOOPBACK`. -/
def kInaddrAny : BitVec 32 := 0
def kInaddrLoopback : BitVec 32 := 0x7f000001

/-- `InetAddress(uint16_t port, bool loopbackOnly, bool ipv6)` in memory with the content
`memory`. -/
def ofPort (memory : InetAddress) (portArg : BitVec 16) (loopbackOnly ipv6 : Bool) : InetAddress :=
  if ipv6 then
    { zero with
      sin_family := AF_INET6
      sin6_addr_low := if loopbackOnly then 1 else 0
      sin_port := sockets.hostToNetwork16 portArg }
  else
    { memory.zeroAddr with
      sin_family := AF_INET
      s_addr := sockets.hostToNetwork32 (if loopbackOnly then kInaddrLoopback else kInaddrAny)
      sin_port := sockets.hostToNetwork16 portArg }

end InetAddress

namespace sockets

variable (inet : InetText)

/-- `fromIpPort(const char* ip, uint16_t port, struct sockaddr_in* addr)`. -/
def fromIpPort (ip : Bytes) (port : BitVec 16) (addr : InetAddress) : InetAddress :=
  let addr := { addr with sin_family := AF_INET, sin_port := hostToNetwork16 port }
  match inet.pton4 ip with
  | some s_addr => { addr with s_addr }
  | none => addr

/-- `fromIpPort(const char* ip, uint16_t port, struct sockaddr_in6* addr)`. -/
def fromIpPort6 (ip : Bytes) (port : BitVec 16) (addr : InetAddress) : InetAddress :=
  let addr := { addr with sin_family := AF_INET6, sin_port := hostToNetwork16 port }
  match inet.pton6 ip with
  | some sin6_addr => addr.setSin6Addr sin6_addr
  | none => addr

/-- What `inet_ntop` leaves in an empty buffer of the given size. -/
def inet_ntop (size : ℕ) (text : Bytes) : Bytes := if text.length < size then text else []

/-- `toIp(char* buf, size_t size, const struct sockaddr* addr)` with an empty buffer. -/
def toIp (size : ℕ) (addr : InetAddress) : Bytes :=
  if addr.sin_family = AF_INET then inet_ntop size (inet.ntop4 addr.s_addr)
  else if addr.sin_family = AF_INET6 then inet_ntop size (inet.ntop6 addr.sin6_addr)
  else []

/-- `toIpPort(char* buf, size_t size, const struct sockaddr* addr)` with an empty buffer. -/
def toIpPort (size : ℕ) (addr : InetAddress) : Bytes :=
  let port := networkToHost16 addr.sin_port
  if addr.sin_family = AF_INET6 then
    let buf := '['.toUInt8 :: toIp inet (size - 1) addr
    buf ++ snprintf (size - buf.length) ([']'.toUInt8, ':'.toUInt8] ++ decimalText port.toNat)
  else
    let buf := toIp inet size addr
    buf ++ snprintf (size - buf.length) ([':'.toUInt8] ++ decimalText port.toNat)

/-- `getLocalAddr(int sockfd)` and `getPeerAddr(int sockfd)`: what the kernel answers, or zeros. -/
def getAddr (answer : Option InetAddress) : InetAddress := answer.getD .zero

/-- `isSelfConnect(int sockfd)`. -/
def isSelfConnect (sockname peername : Option InetAddress) : Bool :=
  let localaddr := getAddr sockname
  let peeraddr := getAddr peername
  if localaddr.sin_family = AF_INET then
    localaddr.sin_port = peeraddr.sin_port ∧ localaddr.s_addr = peeraddr.s_addr
  else if localaddr.sin_family = AF_INET6 then
    localaddr.sin_port = peeraddr.sin_port ∧ localaddr.sin6_addr = peeraddr.sin6_addr
  else false

end sockets

namespace InetAddress

variable (inet : InetText)

/-- `InetAddress(std::string ip, uint16_t port, bool ipv6)` in memory with the content `memory`. -/
def ofIp (memory : InetAddress) (ip : Bytes) (portArg : BitVec 16) (ipv6 : Bool) : InetAddress :=
  if ipv6 ∨ ':'.toUInt8 ∈ cString ip then sockets.fromIpPort6 inet (cString ip) portArg .zero
  else sockets.fromIpPort inet (cString ip) portArg memory.zeroAddr

/-- `toIp()`. -/
def toIp (a : InetAddress) : Bytes := sockets.toIp inet 64 a

/-- `toIpPort()`. -/
def toIpPort (a : InetAddress) : Bytes := sockets.toIpPort inet 64 a

/-- `port()`. -/
def port (a : InetAddress) : BitVec 16 := sockets.networkToHost16 a.sin_port

end InetAddress

end SimpleMuduo
