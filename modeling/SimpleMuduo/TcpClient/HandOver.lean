import SimpleMuduo.Connector.Retry
import SimpleMuduo.TcpClient.State

/-!
# The descriptors that a client's connections wrap

The connector passes the descriptor of an established socket to `newConnectionCallback_`, and the
client wraps the descriptor 1.  So the client's connections wrap the descriptors that were handed
over, and close them when they are destroyed, in exactly those runs in which the connector never
hands over a descriptor other than 1.
-/

namespace SimpleMuduo

/-! ## The user state in the steps of a connector -/

namespace Connector

variable {υ : Type*} {c c' : Connector υ}

/-- A function that leaves the user state alone, when it returns. -/
def KeepsUser (f : Connector υ → Except ConnectorHalt (Connector υ)) : Prop :=
  ∀ c c', f c = .ok c' → c'.user = c.user

lemma retry_user {again : Connector υ → Except ConnectorHalt (Connector υ)} {sockfd : Fd}
    (hagain : KeepsUser again) (hok : c.retry again sockfd = .ok c') : c'.user = c.user := by
  simp only [retry] at hok
  split_ifs at hok
  · exact (hagain _ _ hok).trans rfl
  · obtain rfl := Except.ok.inj hok
    rfl

/-- No attempt touches the user state, by induction on the attempts. -/
lemma keepsUser_startInLoop (attempts : List ConnectAttempt) :
    KeepsUser (startInLoop (υ := υ) attempts) := by
  induction attempts with
  | nil =>
    intro c c' hok
    simp only [startInLoop, beforeConnect] at hok
    split_ifs at hok
  | cons attempt rest ih =>
    intro c c' hok
    simp only [startInLoop, beforeConnect] at hok
    split_ifs at hok
    cases branch_of_connect hok with
    | connecting | close => rfl
    | retry created free errno next => exact (retry_user ih next).trans rfl

lemma removeAndResetChannel_eq_ok {sockfd : Fd}
    (hok : c.removeAndResetChannel = .ok (sockfd, c')) :
    c'.user = c.user ∧ c'.connect_ = c.connect_ ∧
      ∃ channel, c.channel_ = some channel ∧ channel.fd = sockfd := by
  unfold removeAndResetChannel at hok
  split at hok
  · cases hok
  · rename_i channel hchannel
    obtain ⟨hfd, rfl⟩ := Prod.mk.inj (Except.ok.inj hok)
    exact ⟨rfl, rfl, channel, hchannel, hfd⟩

/-- A removed channel's descriptor is retried. -/
lemma removed_retry_user {again : Connector υ → Except ConnectorHalt (Connector υ)}
    (hagain : KeepsUser again)
    (hok : (c.removeAndResetChannel.bind fun (sockfd, c) => c.retry again sockfd) = .ok c') :
    c'.user = c.user := by
  obtain ⟨⟨sockfd, d⟩, hremove, hretry⟩ := bind_eq_ok.mp hok
  exact (retry_user hagain hretry).trans (removeAndResetChannel_eq_ok hremove).1

lemma keepsUser_stopInLoop (attempts : List ConnectAttempt) :
    KeepsUser (stopInLoop (υ := υ) attempts) := by
  intro c c' hok
  unfold stopInLoop at hok
  split_ifs at hok
  · exact (removed_retry_user (keepsUser_startInLoop attempts) hok).trans rfl
  · obtain rfl := Except.ok.inj hok
    rfl

lemma keepsUser_handleError (result : CompletionResult) :
    KeepsUser (handleError (υ := υ) result) := by
  intro c c' hok
  unfold handleError at hok
  split_ifs at hok
  · exact removed_retry_user (keepsUser_startInLoop result.attempts) hok
  · obtain rfl := Except.ok.inj hok
    rfl

/-- `handleWrite` hands over the descriptor `sockfd`. -/
def HandsOver (c : Connector υ) (result : CompletionResult) (sockfd : Fd) : Prop :=
  c.callbacks.head? = some .handleWrite ∧ c.state_ = .kConnecting ∧
    ¬ result.fails .handleWrite ∧ c.connect_ = true ∧
      c.channel_.map ConnectorChannel.fd = some sockfd

instance (c : Connector υ) (result : CompletionResult) (sockfd : Fd) :
    Decidable (c.HandsOver result sockfd) := inferInstanceAs (Decidable (_ ∧ _))

variable {newConnectionCallback_ : Fd → υ → υ}

/-- `handleWrite` hands over the descriptor of the channel. -/
lemma handleWrite_of_handsOver {result : CompletionResult} {sockfd : Fd}
    (h : c.HandsOver result sockfd) (newConnectionCallback_ : Fd → υ → υ)
    (rest : List ConnectorCallback) :
    ∃ c', ({ c with callbacks := rest }).handleWrite newConnectionCallback_ result = .ok c' ∧
      c'.user = newConnectionCallback_ sockfd c.user := by
  obtain ⟨-, hstate, hfails, hconnect, hchannel⟩ := h
  simp only [CompletionResult.fails, not_or] at hfails
  cases hcase : c.channel_ with
  | none =>
    rw [hcase] at hchannel
    cases hchannel
  | some channel =>
    rw [hcase] at hchannel
    obtain rfl := Option.some.inj hchannel
    unfold handleWrite removeAndResetChannel
    rw [if_pos hstate]
    simp only [Except.bind]
    rw [if_neg hfails.1, if_neg hfails.2]
    exact ⟨_, if_pos hconnect, rfl⟩

/-- Where `handleWrite` hands over nothing, it leaves the user state alone. -/
lemma handleWrite_user {result : CompletionResult} {rest : List ConnectorCallback}
    (hcallbacks : c.callbacks = .handleWrite :: rest)
    (hnone : ∀ sockfd, ¬ c.HandsOver result sockfd)
    (hok : ({ c with callbacks := rest }).handleWrite newConnectionCallback_ result = .ok c') :
    c'.user = c.user := by
  unfold handleWrite at hok
  by_cases hstate : c.state_ = .kConnecting
  · rw [if_pos hstate] at hok
    obtain ⟨⟨sockfd, d⟩, hremove, hrest⟩ := bind_eq_ok.mp hok
    obtain ⟨huser, hconnect, channel, hchannel, hfd⟩ := removeAndResetChannel_eq_ok hremove
    simp only at hrest
    split_ifs at hrest with herr hself hon
    · exact (retry_user (keepsUser_startInLoop _) hrest).trans huser
    · exact (retry_user (keepsUser_startInLoop _) hrest).trans huser
    · refine absurd ?_ (hnone sockfd)
      refine ⟨?_, hstate, ?_, hconnect.symm.trans hon, ?_⟩
      · rw [hcallbacks]
        rfl
      · rintro (h | h)
        · exact herr h
        · exact hself h
      · rw [show c.channel_ = some channel from hchannel, ← hfd]
        rfl
    · obtain rfl := Except.ok.inj hrest
      exact huser
  · rw [if_neg hstate] at hok
    split_ifs at hok
    obtain rfl := Except.ok.inj hok
    rfl

/-- A step that ends in a fault leaves the user state alone. -/
lemma outcome_user {r : Except ConnectorHalt (Connector υ)} (hr : ∀ d, r = .ok d → d.user = c.user)
    (h : c.outcome r = some c') : c'.user = c.user := by
  rcases outcome_cases h with hok | ⟨f, -, rfl⟩
  · exact hr c' hok
  · rfl

/-- The step hands over the descriptor `sockfd`. -/
def HandsOverAt (c : Connector υ) (sockfd : Fd) : ConnectorEvent → Prop
  | .callback result => c.HandsOver result sockfd
  | _ => False

lemma stepRunning_of_handsOverAt {e : ConnectorEvent} {sockfd : Fd} (h : c.HandsOverAt sockfd e)
    (hstep : c.stepRunning newConnectionCallback_ e = some c') :
    c'.user = newConnectionCallback_ sockfd c.user := by
  cases e with
  | callback result =>
    obtain ⟨rest, hcallbacks⟩ := List.head?_eq_some_iff.mp (show c.callbacks.head? = _ from h.1)
    obtain ⟨d, hok, huser⟩ := handleWrite_of_handsOver h newConnectionCallback_ rest
    simp only [stepRunning, hcallbacks, call, hok, outcome] at hstep
    obtain rfl := Option.some.inj hstep
    exact huser
  | _ => exact absurd h id

/-- Only handing over a descriptor changes the user state. -/
lemma stepRunning_user {e : ConnectorEvent} (hnone : ∀ sockfd, ¬ c.HandsOverAt sockfd e)
    (hstep : c.stepRunning newConnectionCallback_ e = some c') : c'.user = c.user := by
  cases e with
  | start attempts =>
    simp only [stepRunning, start] at hstep
    split_ifs at hstep
    refine outcome_user (fun d hd => ?_) hstep
    exact (keepsUser_startInLoop attempts _ _ hd).trans rfl
  | restart attempts =>
    simp only [stepRunning, restart] at hstep
    split_ifs at hstep
    refine outcome_user (fun d hd => ?_) hstep
    exact (keepsUser_startInLoop attempts _ _ hd).trans rfl
  | push t =>
    simp only [stepRunning] at hstep
    split at hstep
    · cases hstep
    · obtain rfl := Option.some.inj hstep
      rfl
    · obtain rfl := Option.some.inj hstep
      rfl
  | callback result =>
    simp only [stepRunning] at hstep
    split at hstep
    · cases hstep
    · rename_i f rest hcallbacks
      refine (outcome_user (fun d hd => ?_) hstep).trans rfl
      cases f with
      | handleError => exact (keepsUser_handleError result _ _ hd).trans rfl
      | handleWrite => exact (handleWrite_user hcallbacks hnone hd).trans rfl
  | functor attempts =>
    simp only [stepRunning] at hstep
    split at hstep
    · cases hstep
    · rename_i f rest _
      refine (outcome_user (fun d hd => ?_) hstep).trans rfl
      cases f with
      | startInLoop => exact (keepsUser_startInLoop attempts _ _ hd).trans rfl
      | stopInLoop => exact (keepsUser_stopInLoop attempts _ _ hd).trans rfl
      | resetChannel own =>
        obtain rfl := Except.ok.inj hd
        rfl
  | _ =>
    simp only [stepRunning, Option.ite_none_right_eq_some] at hstep
    obtain ⟨-, hstep⟩ := hstep
    obtain rfl := Option.some.inj hstep
    rfl

end Connector

/-! ## The connections of the client -/

namespace TcpClient

variable {u u' : TcpClient} {i j : ℕ} {phase : ClientConnectionPhase}

/-- The descriptors that the connection `i` has closed. -/
def closedBy (u : TcpClient) (i : ℕ) : List Fd :=
  u.closings.filterMap fun (j, sockfd) => if j = i then some sockfd else none

/-- The descriptors wrapped by the connections are those that were handed over, and a connection
has closed its descriptor, once, when it has been destroyed. -/
structure OwnsHandedOver (u : TcpClient) : Prop where
  wraps : u.connections.map ClientConnection.sockfd = u.handedOver
  closes : ∀ i, u.closedBy i =
    if u.phase? i = some .destroyed then u.handedOver[i]?.toList else []

/-- The member functions that leave the connections alone. -/
structure SameConnections (u u' : TcpClient) : Prop where
  connections : u'.connections = u.connections
  handedOver : u'.handedOver = u.handedOver
  closings : u'.closings = u.closings

lemma phase?_setPhase :
    (u.setPhase i phase).phase? j =
      if i = j then (u.phase? j).map fun _ => phase else u.phase? j := by
  simp only [phase?, setPhase, List.getElem?_modify]
  split_ifs with hij
  · simp only [Option.map_eq_map, Option.map_map]
    rfl
  · simp only [Option.map_eq_map, Option.map_id_fun', id_eq]

lemma phase?_newConnectionCallback_ (sockfd : Fd) :
    (newConnectionCallback_ sockfd u).phase? i =
      if i = u.connections.length then some .established else u.phase? i := by
  simp only [phase?, newConnectionCallback_, newConnection, List.getElem?_append]
  split_ifs with hlt heq heq
  · omega
  · rfl
  · subst heq
    simp
  · rw [List.getElem?_eq_none (by simp; omega), List.getElem?_eq_none (by omega)]

lemma phase?_closeSocket (sockfd : Fd) :
    (u.closeSocket i sockfd).phase? j =
      if i = j then (u.phase? j).map fun _ => .destroyed else u.phase? j := phase?_setPhase

lemma closedBy_closeSocket (sockfd : Fd) :
    (u.closeSocket i sockfd).closedBy j =
      if i = j then sockfd :: u.closedBy j else u.closedBy j := by
  simp only [closedBy, closeSocket, List.filterMap_cons]
  split_ifs <;> rfl

namespace OwnsHandedOver

lemma new : OwnsHandedOver TcpClient.new := by
  constructor
  · rfl
  · intro i
    simp [closedBy, phase?, TcpClient.new]

lemma congr (hu : OwnsHandedOver u) (h : SameConnections u u') : OwnsHandedOver u' := by
  constructor
  · rw [h.connections, h.handedOver]
    exact hu.wraps
  · intro i
    have hclosed : u'.closedBy i = u.closedBy i := by
      rw [closedBy, h.closings, closedBy]
    have hphase : u'.phase? i = u.phase? i := by
      rw [phase?, h.connections, phase?]
    rw [hclosed, hphase, h.handedOver]
    exact hu.closes i

lemma length (hu : OwnsHandedOver u) : u.handedOver.length = u.connections.length := by
  rw [← hu.wraps, List.length_map]

/-- A new connection wraps the descriptor 1. -/
lemma newConnectionCallback_ (hu : OwnsHandedOver u) :
    OwnsHandedOver (TcpClient.newConnectionCallback_ 1 u) := by
  constructor
  · simp [TcpClient.newConnectionCallback_, newConnection, hu.wraps]
  · intro i
    have hlength := hu.length
    rw [phase?_newConnectionCallback_]
    refine (show _ = u.closedBy i from rfl).trans ((hu.closes i).trans ?_)
    by_cases hnew : i = u.connections.length
    · have hnone : u.phase? i = none := by
        rw [phase?, List.getElem?_eq_none hnew.ge, Option.map_none]
      rw [hnone, if_pos hnew, if_neg (by simp), if_neg (by simp)]
    · rw [if_neg hnew]
      split_ifs with hphase
      · obtain ⟨conn, hconn, -⟩ := Option.map_eq_some_iff.mp hphase
        have hlt := (List.getElem?_eq_some_iff.mp hconn).1
        change _ = (u.handedOver ++ [1])[i]?.toList
        rw [List.getElem?_append_left (by omega)]
      · rfl

/-- A descriptor other than 1 is not wrapped. -/
lemma eq_one {sockfd : Fd} (hu : OwnsHandedOver u)
    (h : OwnsHandedOver (TcpClient.newConnectionCallback_ sockfd u)) : sockfd = 1 := by
  have hwraps := h.wraps
  simp only [TcpClient.newConnectionCallback_, newConnection, List.map_append, hu.wraps,
    List.append_cancel_left_eq] at hwraps
  exact (List.singleton_injective hwraps).symm

/-- The phase of a connection says nothing about its descriptor. -/
lemma setPhase_wraps (hu : OwnsHandedOver u) :
    (u.setPhase i phase).connections.map ClientConnection.sockfd = u.handedOver := by
  rw [← hu.wraps]
  refine List.ext_getElem? fun j => ?_
  simp only [TcpClient.setPhase, List.getElem?_map, List.getElem?_modify]
  split_ifs <;> simp [Function.comp_def]

/-- A connection goes on without being destroyed. -/
lemma setPhase (hu : OwnsHandedOver u) (hbefore : u.phase? i ≠ some .destroyed)
    (hafter : phase ≠ .destroyed) : OwnsHandedOver (u.setPhase i phase) := by
  constructor
  · exact hu.setPhase_wraps
  · intro j
    rw [phase?_setPhase]
    refine (hu.closes j).trans ?_
    by_cases hij : i = j
    · subst hij
      rw [if_neg hbefore, if_pos rfl, if_neg]
      cases u.phase? i <;> simp [hafter]
    · rw [if_neg hij]
      rfl

/-- A destroyed connection has closed what it wraps. -/
lemma closeSocket {conn : ClientConnection} (hu : OwnsHandedOver u)
    (hconn : u.connections[i]? = some conn) (hbefore : conn.phase ≠ .destroyed) :
    OwnsHandedOver (u.closeSocket i conn.sockfd) := by
  have hphase : u.phase? i = some conn.phase := by
    rw [phase?, hconn, Option.map_some]
  constructor
  · exact hu.setPhase_wraps
  · intro j
    have hj := hu.closes j
    rw [closedBy_closeSocket, phase?_closeSocket]
    by_cases hij : i = j
    · subst hij
      have hnone : u.closedBy i = [] := by
        rw [hj, hphase, if_neg]
        exact fun h => hbefore (Option.some.inj h)
      have howned : u.handedOver[i]? = some conn.sockfd := by
        rw [← hu.wraps, List.getElem?_map, hconn, Option.map_some]
      rw [if_pos rfl, if_pos rfl, hphase, hnone]
      exact congrArg Option.toList howned.symm
    · rw [if_neg hij, if_neg hij]
      exact hj

end OwnsHandedOver

end TcpClient

/-! ## The runs of a client -/

namespace ClientSystem

open TcpClient

variable {s s' : ClientSystem}

/-- The only descriptor that the connector hands over is 1. -/
def HandsOverOne (s : ClientSystem) : TcpClientEvent → Prop
  | .connector (.callback result) => ∀ sockfd, s.HandsOver result sockfd → sockfd = 1
  | _ => True

/-- What a step does to the client. -/
inductive ClientChange (s : ClientSystem) : TcpClientEvent → TcpClient → Prop
  /-- It leaves the connections alone. -/
  | same {e u} (h : SameConnections s.user u) : ClientChange s e u
  /-- The connector hands over a descriptor. -/
  | handsOver {result sockfd u} (hover : s.HandsOver result sockfd)
      (h : u = newConnectionCallback_ sockfd s.user) :
      ClientChange s (.connector (.callback result)) u
  /-- A connection goes on without being destroyed. -/
  | setPhase {e u i phase} (hbefore : s.user.phase? i ≠ some .destroyed)
      (hafter : phase ≠ .destroyed) (h : SameConnections (s.user.setPhase i phase) u) :
      ClientChange s e u
  /-- A connection is destroyed. -/
  | closeSocket {e u i conn} (hconn : s.user.connections[i]? = some conn)
      (hbefore : conn.phase ≠ .destroyed) (h : u = s.user.closeSocket i conn.sockfd) :
      ClientChange s e u

/-- A step of the connector. -/
lemma clientChange_connector {e : ConnectorEvent}
    (h : Connector.step newConnectionCallback_ s e = some s') :
    ClientChange s (.connector e) s'.user := by
  unfold Connector.step at h
  split at h
  · by_cases hover : ∃ sockfd, s.HandsOverAt sockfd e
    · obtain ⟨sockfd, hover⟩ := hover
      have huser := Connector.stepRunning_of_handsOverAt hover h
      cases e with
      | callback result => exact .handsOver hover huser
      | _ => exact absurd hover id
    · rw [Connector.stepRunning_user (fun sockfd hsockfd => hover ⟨sockfd, hsockfd⟩) h]
      exact .same ⟨rfl, rfl, rfl⟩
  · cases h

/-- A command that the client passes on to the connector. -/
lemma sameConnections_command {u : TcpClient} {e : ConnectorEvent}
    (hnone : ∀ sockfd, ¬ (s.withUser u).HandsOverAt sockfd e) (hu : SameConnections s.user u)
    (h : Connector.step newConnectionCallback_ (s.withUser u) e = some s') :
    SameConnections s.user s'.user := by
  unfold Connector.step at h
  split at h
  · rw [Connector.stepRunning_user hnone h]
    exact hu
  · cases h

/-- The removed connection is the one in `connection_`. -/
lemma sameConnections_removeConnection {i : ℕ} {attempts : List ConnectAttempt}
    (h : s.removeConnection i attempts = some s') :
    SameConnections (s.user.setPhase i .removed) s'.user := by
  simp only [removeConnection] at h
  split_ifs at h
  · have huser := Connector.outcome_user (fun d hd => ?_) h
    · rw [huser]
      exact ⟨rfl, rfl, rfl⟩
    · exact (Connector.keepsUser_startInLoop attempts _ _ hd).trans rfl
  · obtain rfl := Option.some.inj h
    exact ⟨rfl, rfl, rfl⟩

lemma stepRunning_cases {e : TcpClientEvent} (h : s.stepRunning e = some s') :
    ClientChange s e s'.user := by
  cases e with
  | connect attempts =>
    have hcommand := sameConnections_command (u := { s.user with connect_ := true })
      (e := .start attempts) (fun _ => id) ⟨rfl, rfl, rfl⟩ h
    exact .same hcommand
  | stop =>
    have hcommand := sameConnections_command (u := { s.user with connect_ := false })
      (e := .stop) (fun _ => id) ⟨rfl, rfl, rfl⟩ h
    exact .same hcommand
  | connector e =>
    simp only [stepRunning, Option.ite_none_right_eq_some] at h
    exact clientChange_connector h.2
  | removeConnection attempts =>
    simp only [stepRunning] at h
    split at h
    · rename_i i _
      obtain ⟨⟨-, hphase⟩, h⟩ := Option.ite_none_right_eq_some.mp h
      refine .setPhase ?_ ?_ (sameConnections_removeConnection h)
      · simp [hphase]
      · decide
    · cases h
  | connectDestroyed i =>
    obtain ⟨hphase, h⟩ := Option.ite_none_right_eq_some.mp h
    obtain rfl := Option.some.inj h
    refine .setPhase (i := i) ?_ (show ClientConnectionPhase.disconnected ≠ _ from ?_)
      ⟨rfl, rfl, rfl⟩
    · simp [hphase]
    · decide
  | destroy i =>
    simp only [stepRunning] at h
    split at h
    · rename_i conn hconn
      obtain ⟨hphase, h⟩ := Option.ite_none_right_eq_some.mp h
      obtain rfl := Option.some.inj h
      refine .closeSocket hconn ?_ rfl
      simp [hphase]
    · cases h
  | _ =>
    obtain rfl := Option.some.inj h
    exact .same ⟨rfl, rfl, rfl⟩

/-- Unless it hands over another descriptor, a step keeps what the connections own. -/
lemma ownsHandedOver_step {e : TcpClientEvent} (hs : OwnsHandedOver s.user)
    (hok : s.HandsOverOne e) (h : s.step e = some s') : OwnsHandedOver s'.user := by
  unfold step at h
  split at h
  · cases stepRunning_cases h with
    | same hsame => exact hs.congr hsame
    | handsOver hover huser =>
      obtain rfl := hok _ hover
      rw [huser]
      exact hs.newConnectionCallback_
    | setPhase hbefore hafter hsame => exact (hs.setPhase hbefore hafter).congr hsame
    | closeSocket hconn hbefore huser =>
      rw [huser]
      exact hs.closeSocket hconn hbefore
  · cases h

/-- The connection that is created for another descriptor does not wrap it. -/
lemma not_ownsHandedOver_step {e : TcpClientEvent} (hs : OwnsHandedOver s.user)
    (hbad : ¬ s.HandsOverOne e) (h : s.step e = some s') : ¬ OwnsHandedOver s'.user := by
  intro howns
  apply hbad
  cases e with
  | connector e =>
    cases e with
    | callback result =>
      intro sockfd hover
      unfold step at h
      split at h
      · simp only [stepRunning, Option.ite_none_right_eq_some] at h
        obtain ⟨-, h⟩ := h
        unfold Connector.step at h
        split at h
        · have huser := Connector.stepRunning_of_handsOverAt
            (show s.HandsOverAt sockfd (.callback result) from hover) h
          exact hs.eq_one (huser ▸ howns)
        · cases h
      · cases h
    | _ => trivial
  | _ => trivial

/-- In a run of a client, every connection wraps, and when it is destroyed closes, the descriptor
that the connector handed over for it, if and only if that descriptor is 1 each time. -/
theorem ownsHandedOver_iff (es : List TcpClientEvent) :
    Always step (fun s => OwnsHandedOver s.user) new es ↔ Meets step HandsOverOne new es := by
  apply always_iff_meets (I := fun s => OwnsHandedOver s.user)
  · intro s e s' hs hok h
    exact ownsHandedOver_step hs hok h
  · intro s hs
    exact hs
  · intro s e s' hs hbad h
    exact not_ownsHandedOver_step hs hbad h
  · exact OwnsHandedOver.new

/-- The kernel hands out the descriptor 5, the connection is established, and the client's
`TcpConnection` wraps the descriptor 1. -/
theorem not_ownsHandedOver_connected :
    ¬ ∀ (es : List TcpClientEvent) (s : ClientSystem),
      exec step new es = some s → OwnsHandedOver s.user := by
  intro h
  have hrun : ∃ s, exec step new
      [.connect [⟨5, EINPROGRESS⟩], .connector (.handleEvent false true),
        .connector (.callback ⟨0, false, []⟩)] = some s ∧
      s.user.handedOver = [5] ∧ s.user.connections = [⟨1, .established⟩] :=
    exists_exec_of_any (by decide +kernel)
  obtain ⟨s, hrun, hover, hconnections⟩ := hrun
  have hwraps := (h _ s hrun).wraps
  rw [hover, hconnections] at hwraps
  exact absurd hwraps (by decide)

end ClientSystem

end SimpleMuduo
