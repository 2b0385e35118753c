import SimpleMuduo.TcpServer.State

/-!
# The connection map of the server

The name of a connection ends in its number.  With an address of at most 47 characters the text fits
into the buffer of 64 characters in which it is composed, so that no number is cut off; different
connections then have different names, and the map is the set of the accepted connections that
have not been removed.
-/

namespace SimpleMuduo

namespace TcpServer

/-! ## The names -/

/-- The numbers of connections are rendered with at most ten digits. -/
lemma snprintf_connName {ipPort : Bytes} (hipPort : ipPort.length ≤ 47) {n : ℕ} (hn : n < 2 ^ 31) :
    snprintf 64 (['-'.toUInt8] ++ cString ipPort ++ ['#'.toUInt8] ++ decimalText n) =
      ['-'.toUInt8] ++ cString ipPort ++ ['#'.toUInt8] ++ decimalText n := by
  have hcString : (cString ipPort).length ≤ ipPort.length :=
    (List.takeWhile_prefix _).length_le
  have hdigits : (decimalText n).length ≤ 10 := length_decimalText_le (by decide) (by omega)
  refine List.take_of_length_le ?_
  simp only [List.length_append, List.length_singleton]
  omega

/-- Different numbers give different names. -/
theorem connNameOf_injective {name ipPort : Bytes} (hipPort : ipPort.length ≤ 47) {m n : ℕ}
    (hm : m < 2 ^ 31) (hn : n < 2 ^ 31) (h : connNameOf name ipPort m = connNameOf name ipPort n) :
    m = n := by
  rw [connNameOf, connNameOf, snprintf_connName hipPort hm, snprintf_connName hipPort hn] at h
  have htext : decimalText m = decimalText n :=
    List.append_cancel_left (List.append_cancel_left h)
  exact Int.ofNat_inj.mp (decimalText_injective htext)

/-! ## The map -/

/-- The numbers, the names and the map fit together. -/
structure MapInv (name ipPort : Bytes) (s : TcpServer) : Prop where
  name_ : s.name_ = name
  ipPort_ : s.ipPort_ = ipPort
  nextConnId_ : s.nextConnId_ = (s.accepted.length + 1 : ℕ)
  names : ∀ conn c, s.accepted[conn]? = some c → c.name_ = connNameOf name ipPort (conn + 1 : ℕ)
  removed : ∀ conn ∈ s.removed, conn < s.accepted.length
  connections_ : ∀ key conn, s.connections_ key = some conn ↔
    conn ∉ s.removed ∧ ∃ c, s.accepted[conn]? = some c ∧ c.name_ = key

namespace MapInv

variable {name ipPort : Bytes} {s : TcpServer}

lemma new (loop : LoopId) (ipPort nameArg : Bytes) :
    MapInv nameArg ipPort (.new loop ipPort nameArg) where
  name_ := rfl
  ipPort_ := rfl
  nextConnId_ := rfl
  names := by simp [TcpServer.new]
  removed := by simp [TcpServer.new]
  connections_ := by simp [TcpServer.new]

/-- The next name is that of the next number. -/
lemma connName_eq (h : MapInv name ipPort s) :
    s.connName = connNameOf name ipPort (s.accepted.length + 1 : ℕ) := by
  rw [connName, h.name_, h.ipPort_, h.nextConnId_]

/-- The names of two accepted connections differ. -/
lemma eq_of_name_eq (h : MapInv name ipPort s) (hipPort : ipPort.length ≤ 47)
    (hfew : s.accepted.length < 2 ^ 31 - 1) {i j : ConnId} {c d : AcceptedConnection}
    (hc : s.accepted[i]? = some c) (hd : s.accepted[j]? = some d) (hname : c.name_ = d.name_) :
    i = j := by
  obtain ⟨hi, -⟩ := List.getElem?_eq_some_iff.mp hc
  obtain ⟨hj, -⟩ := List.getElem?_eq_some_iff.mp hd
  rw [h.names i c hc, h.names j d hd] at hname
  exact Nat.add_right_cancel (connNameOf_injective hipPort (by omega) (by omega) hname)

/-- The next name is not in the map. -/
lemma connections_connName (h : MapInv name ipPort s) (hipPort : ipPort.length ≤ 47)
    (hfew : s.accepted.length + 1 < 2 ^ 31 - 1) : s.connections_ s.connName = none := by
  by_contra hsome
  obtain ⟨conn, hconn⟩ := Option.ne_none_iff_exists'.mp hsome
  obtain ⟨-, c, hc, hname⟩ := (h.connections_ _ _).mp hconn
  obtain ⟨hlt, -⟩ := List.getElem?_eq_some_iff.mp hc
  rw [h.names conn c hc, h.connName_eq] at hname
  have := connNameOf_injective hipPort (by omega) (by omega) hname
  omega

/-- A new connection is added under its own name. -/
lemma newConnection (h : MapInv name ipPort s) (hipPort : ipPort.length ≤ 47)
    (hfew : s.accepted.length + 1 < 2 ^ 31 - 1) (sockfd : ℕ) :
    MapInv name ipPort (s.newConnection sockfd) := by
  have hnew : s.accepted.length ∉ s.removed := fun hmem => Nat.lt_irrefl _ (h.removed _ hmem)
  have haccepted (conn : ConnId) (c : AcceptedConnection) :
      (s.newConnection sockfd).accepted[conn]? = some c ↔ s.accepted[conn]? = some c ∨
        conn = s.accepted.length ∧ c = ⟨s.threadPool_.getNextLoop.1, s.connName, sockfd⟩ := by
    simp only [TcpServer.newConnection]
    rcases Nat.lt_trichotomy conn s.accepted.length with hlt | heq | hgt
    · rw [List.getElem?_append_left hlt]
      simp [hlt.ne]
    · subst heq
      simp [eq_comm]
    · rw [List.getElem?_eq_none (by simp; omega), List.getElem?_eq_none hgt.le]
      simp [hgt.ne']
  refine ⟨h.name_, h.ipPort_, ?_, ?_, ?_, ?_⟩
  · simp only [TcpServer.newConnection, List.length_append, List.length_singleton, h.nextConnId_]
    omega
  · intro conn c hc
    rcases (haccepted conn c).mp hc with hold | ⟨rfl, rfl⟩
    · exact h.names conn c hold
    · exact h.connName_eq
  · intro conn hconn
    simp only [TcpServer.newConnection, List.length_append, List.length_singleton]
    exact Nat.lt_succ_of_lt (h.removed conn hconn)
  · intro key conn
    simp only [haccepted]
    by_cases hkey : key = s.connName
    · subst hkey
      have hmap : (s.newConnection sockfd).connections_ s.connName = some s.accepted.length :=
        Function.update_self _ _ _
      rw [hmap]
      constructor
      · rintro ⟨⟩
        exact ⟨hnew, _, .inr ⟨rfl, rfl⟩, rfl⟩
      · rintro ⟨hkept, c, hold | ⟨rfl, -⟩, hname⟩
        · have hmapped := (h.connections_ s.connName conn).mpr ⟨hkept, c, hold, hname⟩
          rw [h.connections_connName hipPort hfew] at hmapped
          cases hmapped
        · rfl
    · have hmap : (s.newConnection sockfd).connections_ key = s.connections_ key :=
        Function.update_of_ne hkey _ _
      rw [hmap, h.connections_]
      refine and_congr_right fun _ => exists_congr fun c => and_congr_left fun hname => ?_
      refine (or_iff_left ?_).symm
      rintro ⟨-, rfl⟩
      exact hkey hname.symm

/-- The removal of a connection takes that connection out of the map, or nothing when it has been
removed before. -/
lemma removeConnectionInLoop (h : MapInv name ipPort s) (hipPort : ipPort.length ≤ 47)
    (hfew : s.accepted.length < 2 ^ 31 - 1) {conn : ConnId} {c : AcceptedConnection}
    (hc : s.accepted[conn]? = some c) :
    MapInv name ipPort (s.removeConnectionInLoop conn c) := by
  refine ⟨h.name_, h.ipPort_, h.nextConnId_, h.names, ?_, ?_⟩
  · intro other hother
    rcases List.mem_cons.mp hother with rfl | hother
    · exact (List.getElem?_eq_some_iff.mp hc).1
    · exact h.removed other hother
  · intro key other
    have hremoved : other ∉ (s.removeConnectionInLoop conn c).removed ↔
        other ≠ conn ∧ other ∉ s.removed := by
      simp [TcpServer.removeConnectionInLoop]
    rw [hremoved]
    by_cases hkey : key = c.name_
    · have hmap : (s.removeConnectionInLoop conn c).connections_ key = none := by
        rw [hkey]
        exact Function.update_self _ _ _
      refine iff_of_false (by simp [hmap]) ?_
      rintro ⟨⟨hne, -⟩, d, hd, hname⟩
      exact hne (h.eq_of_name_eq hipPort hfew hd hc (hname.trans hkey))
    · have hmap : (s.removeConnectionInLoop conn c).connections_ key = s.connections_ key :=
        Function.update_of_ne hkey _ _
      rw [hmap, h.connections_]
      refine and_congr_left ?_
      rintro ⟨d, hd, hname⟩
      refine (and_iff_right ?_).symm
      rintro rfl
      obtain rfl := Option.some.inj (hd.symm.trans hc)
      exact hkey hname.symm

/-- Every step of the server keeps names and map together. -/
lemma step (h : s.accepted.length < 2 ^ 31 - 1 → MapInv name ipPort s)
    (hipPort : ipPort.length ≤ 47) {e : TcpServerEvent} {t : TcpServer} (hstep : s.step e = some t)
    (hfew : t.accepted.length < 2 ^ 31 - 1) : MapInv name ipPort t := by
  cases e with
  | setThreadNum | start | startThreadPool | getNextLoop =>
    obtain rfl := Option.some.inj hstep
    obtain ⟨hname, haddress, hnumber, hnames, hremoved, hmap⟩ := h hfew
    exact ⟨hname, haddress, hnumber, hnames, hremoved, hmap⟩
  | newConnection sockfd =>
    simp only [TcpServer.step, Option.ite_none_right_eq_some, Option.some.injEq] at hstep
    obtain ⟨-, rfl⟩ := hstep
    have hlength : (s.newConnection sockfd).accepted.length = s.accepted.length + 1 :=
      List.length_append
    rw [hlength] at hfew
    exact (h (by omega)).newConnection hipPort hfew sockfd
  | removeConnectionInLoop conn =>
    obtain ⟨c, hc, rfl⟩ := Option.map_eq_some_iff.mp hstep
    exact (h hfew).removeConnectionInLoop hipPort hfew hc

end MapInv

end TcpServer

end SimpleMuduo
