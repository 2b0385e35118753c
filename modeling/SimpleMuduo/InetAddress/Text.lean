import Mathlib.Data.List.TakeWhile
import SimpleMuduo.InetAddress.State

/-!
# The texts of socket addresses

The text of an address fits into the buffer of 64 characters, and it says exactly which endpoint
the address is: the family, the address and the port can be read back from it.  So an address that
is constructed from the texts of another one is the same endpoint.  A text that is none of an
address gives the address of all interfaces.
-/

namespace SimpleMuduo

namespace sockets

/-- The two conversions of a port are inverse to each other. -/
@[simp] lemma networkToHost16_hostToNetwork16 (x : BitVec 16) :
    networkToHost16 (hostToNetwork16 x) = x := by
  unfold networkToHost16 hostToNetwork16
  grind

/-- The same the other way round. -/
@[simp] lemma hostToNetwork16_networkToHost16 (x : BitVec 16) :
    hostToNetwork16 (networkToHost16 x) = x := by
  unfold networkToHost16 hostToNetwork16
  grind

/-- The answer when the kernel knows both ends. -/
lemma isSelfConnect_some (a b : InetAddress) : isSelfConnect (some a) (some b) =
    if a.sin_family = AF_INET then decide (a.sin_port = b.sin_port ∧ a.s_addr = b.s_addr)
    else if a.sin_family = AF_INET6 then
      decide (a.sin_port = b.sin_port ∧ a.sin6_addr = b.sin6_addr)
    else false := rfl

end sockets

namespace InetAddress

variable {inet : InetText} {a b memory : InetAddress} {ip : Bytes} {portArg : BitVec 16}

/-- The address is one of the two families. -/
def Internet (a : InetAddress) : Prop := a.sin_family = AF_INET ∨ a.sin_family = AF_INET6

/-- The addresses are the same endpoint. -/
structure SameEndpoint (a b : InetAddress) : Prop where
  sin_family : a.sin_family = b.sin_family
  sin_port : a.sin_port = b.sin_port
  s_addr : a.sin_family = AF_INET → a.s_addr = b.s_addr
  sin6_addr : a.sin_family = AF_INET6 → a.sin6_addr = b.sin6_addr

/-- The families are different. -/
lemma AF_INET_ne_AF_INET6 : AF_INET ≠ AF_INET6 := by decide

/-! ## The text of an endpoint -/

/-- The text without regard to the size of the buffer. -/
def endpointText (inet : InetText) (a : InetAddress) : Bytes :=
  (if a.sin_family = AF_INET6 then '['.toUInt8 :: inet.ntop6 a.sin6_addr ++ [']'.toUInt8]
    else inet.ntop4 a.s_addr) ++ ':'.toUInt8 :: decimalDigits a.port.toNat

/-- The text of an address of the first family. -/
lemma toIp_of_inet (h : inet.Lawful) (ha : a.sin_family = AF_INET) :
    a.toIp inet = inet.ntop4 a.s_addr := by
  have hlength := h.length_ntop4 a.s_addr
  rw [INET_ADDRSTRLEN] at hlength
  rw [toIp, sockets.toIp, if_pos ha, sockets.inet_ntop, if_pos (by omega)]

/-- The text of an address of the second family. -/
lemma toIp_of_inet6 (h : inet.Lawful) (ha : a.sin_family = AF_INET6) :
    a.toIp inet = inet.ntop6 a.sin6_addr := by
  have hlength := h.length_ntop6 a.sin6_addr
  rw [INET6_ADDRSTRLEN] at hlength
  have hne : a.sin_family ≠ AF_INET := ha ▸ AF_INET_ne_AF_INET6.symm
  rw [toIp, sockets.toIp, if_neg hne, if_pos ha, sockets.inet_ntop, if_pos (by omega)]

/-- A port has at most five digits. -/
lemma decimalText_port (x : BitVec 16) :
    decimalText x.toNat = decimalDigits x.toNat ∧ (decimalDigits x.toNat).length ≤ 5 := by
  have htext : decimalText x.toNat = decimalDigits x.toNat := by simp [decimalText]
  exact ⟨htext, htext ▸ length_decimalText_le (by decide) (by have := x.isLt; omega)⟩

/-- Nothing is cut off. -/
lemma toIpPort_eq (h : inet.Lawful) (ha : a.Internet) : a.toIpPort inet = a.endpointText inet := by
  obtain ⟨htext, hdigits⟩ := decimalText_port a.port
  obtain ha | ha := ha
  · have hlength := h.length_ntop4 a.s_addr
    rw [INET_ADDRSTRLEN] at hlength
    have hne : a.sin_family ≠ AF_INET6 := ha ▸ AF_INET_ne_AF_INET6
    have hip := toIp_of_inet h ha
    rw [toIp] at hip
    simp only [toIpPort, sockets.toIpPort, endpointText, if_neg hne, hip, snprintf]
    rw [← port, htext, List.take_of_length_le (by simp; omega)]
    rfl
  · have hlength := h.length_ntop6 a.sin6_addr
    rw [INET6_ADDRSTRLEN] at hlength
    have hne : a.sin_family ≠ AF_INET := ha ▸ AF_INET_ne_AF_INET6.symm
    have hip : sockets.toIp inet 63 a = inet.ntop6 a.sin6_addr := by
      rw [sockets.toIp, if_neg hne, if_pos ha, sockets.inet_ntop, if_pos (by omega)]
    simp only [toIpPort, sockets.toIpPort, endpointText, if_pos ha, Nat.reduceSub, hip, snprintf]
    rw [← port, htext, List.take_of_length_le (by simp; omega)]
    simp

/-- A text splits in one way at its last colon. -/
lemma append_colon_inj {xs xs' ys ys' : Bytes} (hys : ':'.toUInt8 ∉ ys) (hys' : ':'.toUInt8 ∉ ys')
    (h : xs ++ ':'.toUInt8 :: ys = xs' ++ ':'.toUInt8 :: ys') : xs = xs' ∧ ys = ys' := by
  have hlast {zs us us' : Bytes} (hus : ':'.toUInt8 ∉ us)
      (h : ':'.toUInt8 :: us = zs ++ ':'.toUInt8 :: us') : zs = [] ∧ us = us' := by
    cases zs with
    | nil => exact ⟨rfl, (List.cons.inj h).2⟩
    | cons z zs =>
      refine absurd ?_ hus
      rw [(List.cons.inj h).2]
      simp
  obtain ⟨zs, rfl, hzs⟩ | ⟨zs, rfl, hzs⟩ := List.append_eq_append_iff.mp h
  · obtain ⟨rfl, rfl⟩ := hlast hys hzs
    exact ⟨(List.append_nil _).symm, rfl⟩
  · obtain ⟨rfl, rfl⟩ := hlast hys' hzs
    exact ⟨List.append_nil _, rfl⟩

/-- A colon is no digit. -/
lemma colon_notMem_decimalDigits (n : ℕ) : ':'.toUInt8 ∉ decimalDigits n := fun hmem =>
  absurd (toNat_of_mem_decimalDigits hmem).2 (by decide)

/-- Different ports stay different. -/
lemma port_injective {x y : BitVec 16} (h : sockets.networkToHost16 x = sockets.networkToHost16 y) :
    x = y := by
  rw [← sockets.hostToNetwork16_networkToHost16 x, h, sockets.hostToNetwork16_networkToHost16]

/-- The text is that of the endpoint. -/
lemma endpointText_eq_iff (h : inet.Lawful) (ha : a.Internet) (hb : b.Internet) :
    a.endpointText inet = b.endpointText inet ↔ a.SameEndpoint b := by
  rw [endpointText, endpointText]
  constructor
  · intro heq
    obtain ⟨hip, hdigits⟩ := append_colon_inj (colon_notMem_decimalDigits _)
      (colon_notMem_decimalDigits _) heq
    have hport : a.sin_port = b.sin_port := by
      have hread := congrArg decimalValue hdigits
      rw [decimalValue_decimalDigits, decimalValue_decimalDigits] at hread
      exact port_injective (BitVec.eq_of_toNat_eq hread)
    obtain ha | ha := ha <;> obtain hb | hb := hb
    · rw [ha, hb, if_neg AF_INET_ne_AF_INET6, if_neg AF_INET_ne_AF_INET6] at hip
      have hread := congrArg inet.pton4 hip
      rw [h.pton4_ntop4, h.pton4_ntop4] at hread
      exact ⟨ha.trans hb.symm, hport, fun _ => Option.some.inj hread, fun h6 =>
        absurd (ha.symm.trans h6) AF_INET_ne_AF_INET6⟩
    · -- one text has a colon, the other has none
      rw [ha, hb, if_neg AF_INET_ne_AF_INET6, if_pos rfl] at hip
      have hcolon : ':'.toUInt8 ∈ inet.ntop4 a.s_addr := by
        rw [hip]
        simp [h.colon_mem_ntop6]
      exact absurd hcolon (h.colon_notMem_ntop4 _)
    · rw [ha, hb, if_pos rfl, if_neg AF_INET_ne_AF_INET6] at hip
      have hcolon : ':'.toUInt8 ∈ inet.ntop4 b.s_addr := by
        rw [← hip]
        simp [h.colon_mem_ntop6]
      exact absurd hcolon (h.colon_notMem_ntop4 _)
    · rw [ha, hb, if_pos rfl] at hip
      have hread := congrArg inet.pton6 (List.append_cancel_right (List.cons.inj hip).2)
      rw [h.pton6_ntop6, h.pton6_ntop6] at hread
      exact ⟨ha.trans hb.symm, hport, fun h4 => absurd (h4.symm.trans ha) AF_INET_ne_AF_INET6,
        fun _ => Option.some.inj hread⟩
  · rintro ⟨hfamily, hport, hs_addr, hsin6_addr⟩
    rw [port, port, hport]
    obtain ha | ha := ha
    · rw [hs_addr ha, ← hfamily, ha, if_neg AF_INET_ne_AF_INET6, if_neg AF_INET_ne_AF_INET6]
    · rw [hsin6_addr ha, ← hfamily, ha, if_pos rfl, if_pos rfl]

/-! ## Construction from text -/

/-- What has been stored is read back. -/
lemma sin6_addr_setSin6Addr (a : InetAddress) (addr : BitVec 128) :
    (a.setSin6Addr addr).sin6_addr = addr := by
  unfold setSin6Addr sin6_addr
  ext i hi
  simp only [BitVec.getElem_append]
  grind

/-- The halves of the zero address. -/
lemma zero_append_zero : (0 : BitVec 64) ++ (0 : BitVec 64) = (0 : BitVec 128) := by decide

/-- A text without a zero byte is not cut off. -/
lemma cString_eq_self {text : Bytes} (h : 0 ∉ text) : cString text = text :=
  List.takeWhile_eq_self_iff.mpr fun c hc => by
    simpa using fun heq : c = 0 => h (heq ▸ hc)

/-- The family that is chosen for a text. -/
def isInet6 (ip : Bytes) (ipv6 : Bool) : Bool := ipv6 || decide (':'.toUInt8 ∈ cString ip)

/-- What the constructor makes of a text: the chosen family, the port, and the address that the
text stands for, or otherwise the address of all interfaces. -/
lemma ofIp_sameEndpoint (inet : InetText) (memory : InetAddress) (ip : Bytes)
    (portArg : BitVec 16) (ipv6 : Bool) {b : InetAddress} (hport : b.port = portArg)
    (h4 : isInet6 ip ipv6 = false → b.sin_family = AF_INET ∧
      b.s_addr = (inet.pton4 (cString ip)).getD 0)
    (h6 : isInet6 ip ipv6 = true → b.sin_family = AF_INET6 ∧
      b.sin6_addr = (inet.pton6 (cString ip)).getD 0) :
    (ofIp inet memory ip portArg ipv6).SameEndpoint b := by
  have hsin_port : b.sin_port = sockets.hostToNetwork16 portArg := by
    rw [← hport, port, sockets.hostToNetwork16_networkToHost16]
  by_cases hfamily : isInet6 ip ipv6 = true
  · obtain ⟨hb, haddr⟩ := h6 hfamily
    have hbranch : (ipv6 = true ∨ ':'.toUInt8 ∈ cString ip) := by simpa [isInet6] using hfamily
    rw [ofIp, if_pos hbranch, sockets.fromIpPort6]
    cases hread : inet.pton6 (cString ip) with
    | none =>
      rw [hread] at haddr
      exact ⟨hb.symm, hsin_port.symm, fun h => absurd h.symm AF_INET_ne_AF_INET6,
        fun _ => zero_append_zero.trans haddr.symm⟩
    | some addr =>
      rw [hread] at haddr
      refine ⟨hb.symm, hsin_port.symm, fun h => absurd h.symm AF_INET_ne_AF_INET6, fun _ => ?_⟩
      exact (sin6_addr_setSin6Addr _ addr).trans haddr.symm
  · obtain ⟨hb, haddr⟩ := h4 (Bool.eq_false_iff.mpr hfamily)
    have hbranch : ¬ (ipv6 = true ∨ ':'.toUInt8 ∈ cString ip) := by simpa [isInet6] using hfamily
    rw [ofIp, if_neg hbranch, sockets.fromIpPort]
    cases hread : inet.pton4 (cString ip) with
    | none =>
      rw [hread] at haddr
      exact ⟨hb.symm, hsin_port.symm, fun _ => haddr.symm, fun h => absurd h AF_INET_ne_AF_INET6⟩
    | some addr =>
      rw [hread] at haddr
      exact ⟨hb.symm, hsin_port.symm, fun _ => haddr.symm, fun h => absurd h AF_INET_ne_AF_INET6⟩

/-- An address constructed from the texts of another one is the same endpoint. -/
lemma ofIp_toIp (h : inet.Lawful) (ha : a.Internet) (memory : InetAddress) {ipv6 : Bool}
    (hflag : ipv6 = true → a.sin_family = AF_INET6) :
    (ofIp inet memory (a.toIp inet) a.port ipv6).SameEndpoint a := by
  obtain ha | ha := ha
  · have hflag' : ipv6 = false := by
      by_contra hset
      have h6 := hflag (by simpa using hset)
      exact AF_INET_ne_AF_INET6 (ha.symm.trans h6)
    have hstring := cString_eq_self (h.zero_notMem_ntop4 a.s_addr)
    have hfamily : isInet6 (a.toIp inet) ipv6 = false := by
      rw [toIp_of_inet h ha, isInet6, hstring]
      simp [hflag', h.colon_notMem_ntop4]
    refine ofIp_sameEndpoint _ _ _ _ _ rfl (fun _ => ⟨ha, ?_⟩) fun h6 => ?_
    · rw [toIp_of_inet h ha, hstring, h.pton4_ntop4]
      rfl
    · rw [hfamily] at h6
      cases h6
  · have hstring := cString_eq_self (h.zero_notMem_ntop6 a.sin6_addr)
    have hfamily : isInet6 (a.toIp inet) ipv6 = true := by
      rw [toIp_of_inet6 h ha, isInet6, hstring]
      simp [h.colon_mem_ntop6]
    refine ofIp_sameEndpoint _ _ _ _ _ rfl (fun h4 => ?_) fun _ => ⟨ha, ?_⟩
    · rw [hfamily] at h4
      cases h4
    · rw [toIp_of_inet6 h ha, hstring, h.pton6_ntop6]
      rfl

/-- The text is none of an address of the chosen family. -/
def Malformed (inet : InetText) (ip : Bytes) (ipv6 : Bool) : Prop :=
  if isInet6 ip ipv6 then inet.pton6 (cString ip) = none else inet.pton4 (cString ip) = none

/-- A text of no address gives the address of all interfaces. -/
lemma ofIp_of_malformed (portArg : BitVec 16) (memory memory' : InetAddress) {ipv6 : Bool}
    (h : Malformed inet ip ipv6) :
    (ofIp inet memory ip portArg ipv6).SameEndpoint
      (ofPort memory' portArg false (isInet6 ip ipv6)) := by
  unfold Malformed at h
  refine ofIp_sameEndpoint _ _ _ _ _ ?_ (fun h4 => ?_) fun h6 => ?_
  · unfold ofPort port
    split <;> simp
  · rw [h4, if_neg Bool.false_ne_true] at h
    rw [h4, h]
    exact ⟨rfl, (by decide : sockets.hostToNetwork32 kInaddrAny = 0)⟩
  · rw [h6, if_pos rfl] at h
    rw [h6, h]
    exact ⟨rfl, zero_append_zero⟩

/-- Addresses of one endpoint are both of a known family. -/
lemma SameEndpoint.internet (h : a.SameEndpoint b) (hb : b.Internet) : a.Internet := by
  rw [Internet, h.sin_family]
  exact hb

/-- Addresses of one endpoint have one text. -/
lemma SameEndpoint.toIpPort (hsame : a.SameEndpoint b) (h : inet.Lawful) (ha : a.Internet)
    (hb : b.Internet) : a.toIpPort inet = b.toIpPort inet := by
  rw [toIpPort_eq h ha, toIpPort_eq h hb]
  exact (endpointText_eq_iff h ha hb).mpr hsame

/-- The constructor from a port sets the family. -/
lemma internet_ofPort (memory : InetAddress) (portArg : BitVec 16) (loopbackOnly ipv6 : Bool) :
    (ofPort memory portArg loopbackOnly ipv6).Internet := by
  cases ipv6 with
  | false => exact .inl rfl
  | true => exact .inr rfl

end InetAddress

/-! ## A pair of conversions -/

namespace InetText

/-- The bytes of an address in the order of the memory. -/
def octets (a : BitVec 32) : List ℕ :=
  [a.toNat % 256, a.toNat / 256 % 256, a.toNat / 65536 % 256, a.toNat / 16777216]

/-- Dotted quads, as they are written and read in truth, and for the second family just some
text. -/
def dotted : InetText where
  ntop4 a := ['.'.toUInt8].intercalate ((octets a).map decimalDigits)
  pton4 text :=
    match (text.splitOn '.'.toUInt8).map decimalValue with
    | [a, b, c, d] => some (BitVec.ofNat 32 (a + 256 * b + 65536 * c + 16777216 * d))
    | _ => none
  ntop6 a := ':'.toUInt8 :: decimalDigits a.toNat
  pton6 text :=
    if text.head? = some ':'.toUInt8 then some (BitVec.ofNat 128 (decimalValue text.tail)) else none

/-- An octet is a byte. -/
lemma octets_lt {a : BitVec 32} {n : ℕ} (h : n ∈ octets a) : n < 256 := by
  have := a.isLt
  simp only [octets, List.mem_cons, List.not_mem_nil, or_false] at h
  omega

/-- The text consists of four numbers. -/
lemma ntop4_dotted (a : BitVec 32) : ∃ w x y z, octets a = [w, x, y, z] ∧
    dotted.ntop4 a = decimalDigits w ++ '.'.toUInt8 ::
      (decimalDigits x ++ '.'.toUInt8 :: (decimalDigits y ++ '.'.toUInt8 :: decimalDigits z)) := by
  refine ⟨_, _, _, _, rfl, ?_⟩
  simp [dotted, octets]

/-- The text consists of dots and digits. -/
lemma mem_ntop4_dotted {a : BitVec 32} {c : UInt8} (h : c ∈ dotted.ntop4 a) :
    c = '.'.toUInt8 ∨ ∃ n, c ∈ decimalDigits n := by
  obtain ⟨w, x, y, z, -, htext⟩ := ntop4_dotted a
  rw [htext] at h
  simp only [List.mem_append, List.mem_cons] at h
  obtain h | rfl | h | rfl | h | rfl | h := h
  all_goals first | exact .inl rfl | exact .inr ⟨_, h⟩

/-- The dotted form is lawful. -/
lemma dotted_lawful : dotted.Lawful where
  pton4_ntop4 a := by
    have hsplit : (dotted.ntop4 a).splitOn '.'.toUInt8 = (octets a).map decimalDigits := by
      refine List.splitOn_intercalate _ (fun text htext hmem => ?_) (by simp [octets])
      obtain ⟨n, -, rfl⟩ := List.mem_map.mp htext
      exact absurd (toNat_of_mem_decimalDigits hmem).1 (by decide)
    have hread : ((dotted.ntop4 a).splitOn '.'.toUInt8).map decimalValue = octets a := by
      rw [hsplit, List.map_map, Function.comp_def]
      simp only [decimalValue_decimalDigits, List.map_id']
    have hlt := a.isLt
    show (match ((dotted.ntop4 a).splitOn '.'.toUInt8).map decimalValue with
      | [a, b, c, d] => some (BitVec.ofNat 32 (a + 256 * b + 65536 * c + 16777216 * d))
      | _ => none) = some a
    rw [hread]
    refine congrArg some (BitVec.eq_of_toNat_eq ?_)
    rw [BitVec.toNat_ofNat]
    omega
  pton6_ntop6 a := by
    show (if (':'.toUInt8 :: decimalDigits a.toNat).head? = some ':'.toUInt8 then
      some (BitVec.ofNat 128 (decimalValue (decimalDigits a.toNat))) else none) = some a
    rw [List.head?_cons, if_pos rfl, decimalValue_decimalDigits, BitVec.ofNat_toNat,
      BitVec.setWidth_eq]
  length_ntop4 a := by
    obtain ⟨w, x, y, z, hoctets, htext⟩ := ntop4_dotted a
    have hdigits (n : ℕ) (h : n ∈ octets a) : (decimalDigits n).length ≤ 3 := by
      have hlt := octets_lt h
      exact length_decimalDigits_le (by decide) (by omega)
    rw [hoctets] at hdigits
    have hw := hdigits w (by simp)
    have hx := hdigits x (by simp)
    have hy := hdigits y (by simp)
    have hz := hdigits z (by simp)
    rw [htext, INET_ADDRSTRLEN]
    simp only [List.length_append, List.length_cons]
    omega
  length_ntop6 a := by
    have hdigits := length_decimalDigits_le (k := 39) (by decide)
      (a.isLt.trans_le (by decide : 2 ^ 128 ≤ 10 ^ 39))
    exact Nat.succ_lt_succ (Nat.lt_of_le_of_lt hdigits (by decide))
  zero_notMem_ntop4 a h := by
    obtain h | ⟨n, h⟩ := mem_ntop4_dotted h
    · exact absurd h (by decide)
    · exact absurd (toNat_of_mem_decimalDigits h).1 (by decide)
  zero_notMem_ntop6 a h := by
    obtain h | h := List.mem_cons.mp h
    · exact absurd h (by decide)
    · exact absurd (toNat_of_mem_decimalDigits h).1 (by decide)
  colon_notMem_ntop4 a h := by
    obtain h | ⟨n, h⟩ := mem_ntop4_dotted h
    · exact absurd h (by decide)
    · exact absurd (toNat_of_mem_decimalDigits h).2 (by decide)
  colon_mem_ntop6 a := List.mem_cons_self

end InetText

/-! ## The results -/

open InetAddress

variable {inet : InetText} {a b memory : InetAddress} {ip : Bytes} {portArg : BitVec 16}

/-- Two addresses have the same text exactly when they are the same endpoint. -/
theorem toIpPort_eq_iff (h : inet.Lawful) (ha : a.Internet) (hb : b.Internet) :
    a.toIpPort inet = b.toIpPort inet ↔ a.SameEndpoint b := by
  rw [toIpPort_eq h ha, toIpPort_eq h hb]
  exact endpointText_eq_iff h ha hb

/-- The loopback address with two ports. -/
theorem toIpPort_eq_iff_loopback :
    (ofPort .zero 80 true false).toIpPort .dotted ≠ (ofPort .zero 81 true false).toIpPort .dotted ∧
      (ofPort .zero 80 true false).toIpPort .dotted =
        "127.0.0.1:80".toList.map Char.toUInt8 := by
  refine ⟨fun heq => ?_, by decide⟩
  have hsame := (toIpPort_eq_iff InetText.dotted_lawful (.inl rfl) (.inl rfl)).mp heq
  exact absurd hsame.sin_port (by decide)

/-- An address that is constructed from the texts of another one has the same text.  A text that is
none of an address is not refused: it gives the address of all interfaces. -/
theorem toIpPort_ofIp (h : inet.Lawful) :
    (∀ a : InetAddress, a.Internet → ∀ (memory : InetAddress) (ipv6 : Bool),
      (ipv6 = true → a.sin_family = AF_INET6) →
      (ofIp inet memory (a.toIp inet) a.port ipv6).toIpPort inet = a.toIpPort inet) ∧
    ∀ (memory : InetAddress) (ip : Bytes) (portArg : BitVec 16) (ipv6 : Bool),
      Malformed inet ip ipv6 →
      (ofIp inet memory ip portArg ipv6).toIpPort inet =
        (ofPort memory portArg false (isInet6 ip ipv6)).toIpPort inet := by
  refine ⟨fun a ha memory ipv6 hflag => ?_, fun memory ip portArg ipv6 hip => ?_⟩
  · have hsame := ofIp_toIp h ha memory hflag
    exact hsame.toIpPort h (hsame.internet ha) ha
  · have hsame := ofIp_of_malformed portArg memory memory hip
    have hany := internet_ofPort memory portArg false (isInet6 ip ipv6)
    exact hsame.toIpPort h (hsame.internet hany) hany

/-- The loopback address goes through its text, and a misspelt address is the address of all
interfaces. -/
theorem toIpPort_ofIp_misspelt :
    (ofIp .dotted .zero ((ofPort .zero 80 true false).toIp .dotted)
        (ofPort .zero 80 true false).port false).toIpPort .dotted =
      "127.0.0.1:80".toList.map Char.toUInt8 ∧
    (ofIp .dotted .zero ("127.0.0,1".toList.map Char.toUInt8) 80 false).toIpPort .dotted =
      "0.0.0.0:80".toList.map Char.toUInt8 := by
  have htext : (ofPort .zero 80 true false).toIpPort .dotted =
      "127.0.0.1:80".toList.map Char.toUInt8 := by decide
  refine ⟨?_, ?_⟩
  · rw [(toIpPort_ofIp InetText.dotted_lawful).1 _ (.inl rfl) .zero false nofun, htext]
  have hip : Malformed .dotted ("127.0.0,1".toList.map Char.toUInt8) false := by
    rw [Malformed, if_neg (by decide)]
    decide
  rw [(toIpPort_ofIp InetText.dotted_lawful).2 _ _ 80 _ hip]
  decide

/-- A connection is one to itself exactly when its two ends have the same text. -/
theorem isSelfConnect_iff (h : inet.Lawful) (ha : a.Internet) (hb : b.Internet)
    (hfamily : a.sin_family = b.sin_family) :
    sockets.isSelfConnect (some a) (some b) = true ↔ a.toIpPort inet = b.toIpPort inet := by
  rw [toIpPort_eq h ha, toIpPort_eq h hb, endpointText_eq_iff h ha hb]
  rw [sockets.isSelfConnect_some]
  obtain ha | ha := ha
  · rw [if_pos ha, decide_eq_true_eq]
    constructor
    · rintro ⟨hport, haddr⟩
      exact ⟨hfamily, hport, fun _ => haddr, fun h6 =>
        absurd (ha.symm.trans h6) AF_INET_ne_AF_INET6⟩
    · exact fun hsame => ⟨hsame.sin_port, hsame.s_addr ha⟩
  · have hne : a.sin_family ≠ AF_INET := ha ▸ AF_INET_ne_AF_INET6.symm
    rw [if_neg hne, if_pos ha, decide_eq_true_eq]
    constructor
    · rintro ⟨hport, haddr⟩
      exact ⟨hfamily, hport, fun h4 => absurd h4 hne, fun _ => haddr⟩
    · exact fun hsame => ⟨hsame.sin_port, hsame.sin6_addr ha⟩

end SimpleMuduo
