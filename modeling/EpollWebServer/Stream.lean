import EpollWebServer.Safety

/-!
**What every socket receives: whole responses, in order, then part of one.**

The server writes to a client in two places. `send_response` sends the bytes of the slot's
response from `response_sent` on. The accept loop sends the 503 message on a connection the
full pool cannot take. Between those calls the loop accepts, reads, closes and sends on other
connections, in whatever order the kernel reports them. Through all of that, the bytes each
connection's socket has taken are whole responses one after another, then the first bytes of
one more (`Transcript`). No byte of a response is skipped or sent twice. Two responses never
interleave. Nothing meant for one connection reaches another. A response is the 200 reply of a
file read whole, or one of the literals of the error paths (`Response`).

The invariant `Streams` ties each open connection's socket to its slot. The socket holds whole
responses, then exactly the first `response_sent` bytes of the response in flight
(`Connection.onSocket`). A connection that `accept` has not returned yet has taken nothing.

* `Streams.remove`, `Streams.set`, `Streams.shrink`: releasing a slot, changing a slot without
  touching what it has sent, and closing descriptors keep the streams.
* `Streams.sendResponse`: one `send_response` call appends the next bytes of the response in
  flight, and the call that completes it leaves one more whole response.
* `Streams.step`: every step of the loop keeps the streams.
* `reachable_transcript`: in every reachable state, running or stopped, each connection's socket
  holds whole responses followed by a prefix of one.
* `reachable_inFlight`: in every reachable state, an open connection's socket ends with exactly
  the first `response_sent` bytes of its slot's response.
-/

namespace EpollWebServer

/-! ### Responses and transcripts -/

/-- The responses the server writes. One is the 200 reply of a file read whole, with a label
from the list of `process_http_request`. The others are the literals of its error paths, of the
413 branch and of the full pool. -/
inductive Response : List UInt8 → Prop
  | ok {contentType body : List UInt8} (keepAlive : Bool) (label : contentType ∈ contentTypes) :
      Response (okHeader contentType body.length keepAlive ++ body)
  | literal {msg : List UInt8}
      (listed : msg ∈ [response501, response404, response500, response413, response503]) :
      Response msg

/-- Whole responses, one after another. -/
inductive Whole : List UInt8 → Prop
  | nil : Whole []
  | snoc {s r : List UInt8} : Whole s → Response r → Whole (s ++ r)

/-- What a socket may hold: whole responses, then the first bytes of one more. -/
def Transcript (bytes : List UInt8) : Prop :=
  ∃ s r n, Whole s ∧ Response r ∧ bytes = s ++ r.take n

/-- The part of a slot's response in flight that is already on the socket: its first
`response_sent` bytes. -/
def Connection.onSocket (c : Connection) : List UInt8 :=
  match c.response with
  | some r => r.take c.responseSent
  | none => []

theorem Connection.onSocket_of_none {c : Connection} (none : c.response = none) : c.onSocket = [] := by
  simp [Connection.onSocket, none]

/-- A freshly stored reply has nothing on the socket yet. -/
@[simp] theorem Connection.onSocket_store (c : Connection) (r : Reply) : (c.store r).onSocket = [] := by
  simp only [Connection.onSocket, Connection.store_response, Connection.store_responseSent]
  split <;> simp

@[simp] theorem Connection.onSocket_receive (c : Connection) (bytes : List UInt8) :
    (c.receive bytes).onSocket = c.onSocket := rfl

theorem Whole.transcript {s : List UInt8} (whole : Whole s) : Transcript s :=
  ⟨s, response413, 0, whole, .literal (by simp only [List.mem_cons, true_or, or_true]), by simp⟩

/-- What the 503 branch leaves on a socket that had taken nothing. -/
theorem transcript_taken503 (result : SendResult) : Transcript (result.taken response503) := by
  have literal : Response response503 := .literal (by simp only [List.mem_cons, true_or, or_true])
  cases result with
  | accepted count => exact ⟨[], response503, count, .nil, literal, rfl⟩
  | wouldBlock => exact Whole.nil.transcript
  | failed => exact Whole.nil.transcript

theorem errorReply_response {msg r : List UInt8} {strdupOk : Bool}
    (built : (errorReply msg strdupOk).response = some r) : r = msg := by
  cases strdupOk <;> simp_all [errorReply]

/-- Every response `process_http_request` builds is a `Response`. -/
theorem buildResponse_served (request : List UInt8) (env : Collaborators) {r : List UInt8}
    (built : (buildResponse request env).response = some r) : Response r := by
  rcases buildResponse_cases request env with ⟨msg, literal, error⟩ | ⟨-, -, file, body, -, -, -, ok⟩
  · rw [error] at built
    rw [errorReply_response built]
    exact .literal (by rcases literal with ⟨-, rfl⟩ | rfl | rfl <;> simp)
  · rw [ok] at built
    cases built
    exact .ok _ (contentType_mem _)

/-! ### The invariant -/

/-- The sockets of a kernel against the pool. -/
structure Streams (k : Kernel) (conns : Pool) : Prop where
  /-- Every socket holds whole responses, then part of one. -/
  transcript : ∀ id, Transcript (k.sent id)
  /-- A connection not accepted yet has taken nothing. -/
  unsent : ∀ id, k.accepted ≤ id → k.sent id = []
  /-- An open connection holds whole responses, then what is out of its slot's response. -/
  inFlight : ∀ i id, 0 ≤ (conns i).fd → k.fds (conns i).fd = some id →
    ∃ s, Whole s ∧ k.sent id = s ++ (conns i).onSocket
  /-- Every response a slot holds is one the server builds. -/
  stored : ∀ i r, (conns i).response = some r → Response r

namespace Streams

variable {k k' : Kernel} {conns : Pool}

theorem initial : Streams Kernel.initial initConnections where
  transcript _ := Whole.nil.transcript
  unsent _ _ := rfl
  inFlight _ _ taken := ((show ¬(0 : Int) ≤ -1 by decide) taken).elim
  stored _ _ none := by simp [initConnections, Connection.unused] at none

/-- A kernel that sent the same, accepted at least as much, and has only fewer open descriptors
keeps the streams. -/
theorem shrink (ok : Streams k conns) (sentEq : k'.sent = k.sent) (acceptedLe : k.accepted ≤ k'.accepted)
    (fdsLe : ∀ n id, k'.fds n = some id → k.fds n = some id) : Streams k' conns where
  transcript id := sentEq ▸ ok.transcript id
  unsent id later := sentEq ▸ ok.unsent id (acceptedLe.trans later)
  inFlight i id taken opened := sentEq ▸ ok.inFlight i id taken (fdsLe _ _ opened)
  stored := ok.stored

theorem close (ok : Streams k conns) (fd : Int) : Streams (k.close fd) conns :=
  ok.shrink (by simp) (by simp) fun _ _ => Kernel.close_fds_of

theorem epollAdd (ok : Streams k conns) {fd : Int} {r : Registration} {ctlOk : Bool}
    (added : k.epollAdd fd r ctlOk = some k') : Streams k' conns := by
  obtain ⟨-, -, rfl⟩ := Kernel.epollAdd_eq_some added
  exact ok.shrink rfl le_rfl fun _ _ => id

theorem epollMod (ok : Streams k conns) {fd : Int} {r : Registration} {ctlOk : Bool}
    (modified : k.epollMod fd r ctlOk = some k') : Streams k' conns := by
  obtain ⟨-, rfl⟩ := Kernel.epollMod_eq_some modified
  exact ok.shrink rfl le_rfl fun _ _ => id

/-- A slot that keeps its descriptor, has sent the same of its response, and holds a response
the server builds. -/
theorem set (ok : Streams k conns) {i : Slot} {c : Connection} (sameFd : c.fd = (conns i).fd)
    (sameBytes : c.onSocket = (conns i).onSocket) (stored : ∀ r, c.response = some r → Response r) :
    Streams k (Function.update conns i c) where
  transcript := ok.transcript
  unsent := ok.unsent
  inFlight j id taken opened := by
    by_cases here : j = i
    · subst here
      simp only [Function.update_same] at taken opened ⊢
      rw [sameBytes]
      exact ok.inFlight j id (sameFd ▸ taken) (sameFd ▸ opened)
    · simp only [Function.update_noteq here] at taken opened ⊢
      exact ok.inFlight j id taken opened
  stored j r held := by
    by_cases here : j = i
    · subst here
      exact stored r (by simpa using held)
    · exact ok.stored j r (by simpa [here] using held)

theorem release (ok : Streams k conns) (i : Slot) :
    Streams k (Function.update conns i (conns i).release) where
  transcript := ok.transcript
  unsent := ok.unsent
  inFlight j id taken opened := by
    by_cases here : j = i
    · subst here
      simp at taken
    · simp only [Function.update_noteq here] at taken opened ⊢
      exact ok.inFlight j id taken opened
  stored j r held := by
    by_cases here : j = i
    · subst here
      simp at held
    · exact ok.stored j r (by simpa [here] using held)

/-- `remove_connection`. -/
theorem remove (ok : Streams k conns) (i : Slot) :
    Streams (removeConnection conns k i).2 (removeConnection conns k i).1 := by
  unfold removeConnection
  split_ifs
  exacts [(ok.close _).release i, ok.release i]

/-- `remove_connection (conn); connection_count--;`. -/
theorem drop {w : World} (ok : Streams w.kernel w.connections) (i : Slot) :
    Streams (w.dropConnection i).kernel (w.dropConnection i).connections :=
  ok.remove i

/-! ### The client handler -/

/-- Storing a reply and switching to `EPOLLOUT`, on a slot with nothing in flight. -/
theorem changeToWriteMode {w : World} (ok : Streams w.kernel w.connections) {i : Slot}
    {c : Connection} (sameFd : c.fd = (w.connections i).fd)
    (sameBytes : c.onSocket = (w.connections i).onSocket)
    (stored : ∀ r, c.response = some r → Response r) (ctlOk : Bool) :
    Streams (w.changeToWriteMode i c ctlOk).1.kernel (w.changeToWriteMode i c ctlOk).1.connections := by
  have set : Streams (w.setConnection i c).kernel (w.setConnection i c).connections :=
    ok.set sameFd sameBytes stored
  unfold World.changeToWriteMode
  split
  · rename_i k modified
    exact set.epollMod modified
  · exact set.drop i

/-- The `EPOLLIN` branch sends nothing: the slot is dropped, keeps reading, or gets a response
with nothing of it out. -/
theorem onReadable {w : World} (ok : Streams w.kernel w.connections) (i : Slot) (o : Outcome) :
    Streams (onReadable w i o).1.kernel (onReadable w i o).1.connections := by
  unfold EpollWebServer.onReadable
  split_ifs with busy
  · exact ok
  have idle : (w.connections i).onSocket = [] :=
    Connection.onSocket_of_none (Option.not_isSome_iff_eq_none.mp busy)
  split
  · exact ok
  · exact ok.drop i
  · rename_i bytes received
    dsimp only
    split_ifs
    · exact ok.drop i
    · refine ok.changeToWriteMode ?_ ?_ ?_ _
      · rfl
      · simp [idle, processHttpRequest]
      · exact fun r built => buildResponse_served _ _ built
    · refine ok.changeToWriteMode ?_ ?_ ?_ _
      · rfl
      · simp [idle]
      · exact fun r built => by rw [errorReply_response built]; exact .literal (by simp)
    · exact ok.set rfl (Connection.onSocket_receive _ _) (fun r held => ok.stored i r held)

/-- `send_response` opens and closes nothing, and writes to no socket but its connection's. -/
theorem sendResponse_frame {c : Connection} {i : Slot} {k : Kernel} {id : Nat}
    (opened : k.fds c.fd = some id) (result : SendResult) (ctlOk : Bool) :
    (EpollWebServer.sendResponse c i k result ctlOk).2.2.fds = k.fds ∧
      (EpollWebServer.sendResponse c i k result ctlOk).2.2.accepted = k.accepted ∧
      ∀ other, other ≠ id → (EpollWebServer.sendResponse c i k result ctlOk).2.2.sent other = k.sent other := by
  have send : ∀ bytes, (k.send c.fd bytes).fds = k.fds ∧ (k.send c.fd bytes).accepted = k.accepted ∧
      ∀ other, other ≠ id → (k.send c.fd bytes).sent other = k.sent other :=
    fun bytes => ⟨by simp, by simp, fun other apart => by simp [Kernel.send, opened, apart]⟩
  unfold EpollWebServer.sendResponse
  repeat' (first | split | dsimp only)
  all_goals first
    | exact ⟨rfl, rfl, fun _ _ => rfl⟩
    | exact send _
    | (rename_i modified; obtain ⟨-, rfl⟩ := Kernel.epollMod_eq_some modified; exact send _)

/-- **One `send_response` call keeps the streams.** The socket of the slot's connection gets
the next bytes of its response, and the call that completes it leaves one more whole response
there. No other socket changes. -/
theorem sendResponse (ok : Streams k conns) {i : Slot} {id : Nat} (taken : 0 ≤ (conns i).fd)
    (opened : k.fds (conns i).fd = some id) (accounts : Accounts k)
    (distinct : ∀ j, 0 ≤ (conns j).fd → (conns j).fd = (conns i).fd → j = i)
    (writing : ∀ r, (conns i).response = some r →
      r.length = (conns i).responseSize ∧ (conns i).responseSent ≤ (conns i).responseSize)
    (result : SendResult) (ctlOk : Bool)
    (fits : result.Fits ((conns i).responseSize - (conns i).responseSent)) :
    Streams (EpollWebServer.sendResponse (conns i) i k result ctlOk).2.2
      (Function.update conns i (EpollWebServer.sendResponse (conns i) i k result ctlOk).2.1) := by
  obtain ⟨fdsEq, acceptedEq, sentNe⟩ := sendResponse_frame opened result ctlOk
  cases pending : (conns i).response with
  | none =>
    have idle : EpollWebServer.sendResponse (conns i) i k result ctlOk = (-1, conns i, k) := by
      simp [EpollWebServer.sendResponse, pending]
    rw [idle]
    simpa using ok
  | some r =>
    obtain ⟨s, whole, socket⟩ := ok.inFlight i id taken opened
    obtain ⟨size, sentLe⟩ := writing r pending
    have sending : Sending s r id (conns i) k :=
      ⟨opened, size ▸ sentLe, by simp [socket, Connection.onSocket, pending], .inl ⟨pending, size.symm⟩⟩
    have after := sendResponse_sending sending pending i result ctlOk fits
    have sameFd := (sendResponse_fd (conns i) i k result ctlOk).1
    refine ⟨fun other => ?_, fun other later => ?_, fun j id' takenJ openedJ => ?_, fun j r' held => ?_⟩
    · by_cases here : other = id
      · subst here
        rw [after.socket]
        exact ⟨s, r, _, whole, ok.stored i r pending, rfl⟩
      · rw [sentNe other here]
        exact ok.transcript other
    · have apart : other ≠ id := fun same => by
        have := accounts.id_lt _ _ opened
        omega
      rw [sentNe other apart]
      exact ok.unsent other (acceptedEq ▸ later)
    · by_cases here : j = i
      · subst here
        simp only [Function.update_same] at takenJ openedJ ⊢
        rw [sameFd, fdsEq, opened, Option.some.injEq] at openedJ
        subst openedJ
        rcases after.pending_or_done with ⟨now, -⟩ | ⟨now, all⟩
        · exact ⟨s, whole, by rw [after.socket, Connection.onSocket, now]⟩
        · exact ⟨s ++ r, whole.snoc (ok.stored j r pending), by
            rw [after.socket, all, List.take_length, Connection.onSocket_of_none now, List.append_nil]⟩
      · simp only [Function.update_noteq here] at takenJ openedJ ⊢
        rw [fdsEq] at openedJ
        have apart : id' ≠ id := fun same =>
          here (distinct j takenJ (accounts.id_injective _ _ _ openedJ (same ▸ opened)))
        rw [sentNe id' apart]
        exact ok.inFlight j id' takenJ openedJ
    · by_cases here : j = i
      · subst here
        simp only [Function.update_same] at held
        rcases after.pending_or_done with ⟨now, -⟩ | ⟨now, -⟩ <;> rw [now] at held
        · cases held
          exact ok.stored j r pending
        · cases held
      · exact ok.stored j r' (by simpa [here] using held)

/-- The `EPOLLOUT` branch: `send_response`, and `remove_connection` when it returns -1. -/
theorem onWritable {w : World} (ok : Streams w.kernel w.connections) (inv : Inv w) {i : Slot}
    (taken : 0 ≤ (w.connections i).fd) (o : Outcome)
    (fits : o.send.Fits ((w.connections i).responseSize - (w.connections i).responseSent)) :
    Streams (onWritable w i o).kernel (onWritable w i o).connections := by
  obtain ⟨id, opened⟩ := Option.isSome_iff_exists.mp (inv.slots i taken).opened
  have sent := ok.sendResponse taken opened inv.accounts (fun j takenJ same => inv.injective j i takenJ same)
    (fun r pending => ((inv.slots i taken).writing r pending).imp_right And.left) o.send o.ctlOk fits
  unfold EpollWebServer.onWritable
  dsimp only
  split_ifs
  · exact Streams.drop (w := { w.setConnection i _ with kernel := _ }) sent i
  · exact sent

theorem checkErrors {w : World} (ok : Streams w.kernel w.connections) (i : Slot) (mask : Mask) :
    Streams (checkErrors w i mask).kernel (checkErrors w i mask).connections := by
  unfold EpollWebServer.checkErrors
  split_ifs
  exacts [ok.drop i, ok]

/-- The whole client handler, on a delivered event. -/
theorem handleClient {w : World} (ok : Streams w.kernel w.connections) (inv : Inv w) {fd : Int}
    {i : Slot} {mask : Mask} (delivered : (Event.client fd i mask).Delivered w.kernel) {o : Outcome}
    (fits : o.Fits (w.connections i)) :
    Streams (handleClient w i mask o).kernel (handleClient w i mask o).connections := by
  obtain ⟨fdEq, valid, -⟩ := inv.slot_of_delivered delivered
  unfold EpollWebServer.handleClient
  split_ifs
  · exact (ok.onReadable i o).checkErrors i mask
  · exact ok.onReadable i o
  · exact (ok.onWritable inv (fdEq ▸ valid) o fits.2).checkErrors i mask
  · exact ok.checkErrors i mask

/-! ### The accept loop and the shutdown -/

/-- `accept` returning a descriptor that is not open: a new connection, which has taken
nothing. -/
theorem accept (ok : Streams k conns) {fd : Int} (fresh : k.fds fd = none)
    (opened : ∀ j, 0 ≤ (conns j).fd → (k.fds (conns j).fd).isSome) : Streams (k.accept fd) conns where
  transcript := ok.transcript
  unsent id later := ok.unsent id (by simp at later; omega)
  inFlight j id taken isOpen := by
    have apart : (conns j).fd ≠ fd := fun same => by simpa [same, fresh] using opened j taken
    exact ok.inFlight j id taken (by simpa [apart] using isOpen)
  stored := ok.stored

/-- The 503 message, on the connection just accepted, which no slot holds. -/
theorem send503 (ok : Streams k conns) {fd : Int} (fresh : k.fds fd = none)
    (opened : ∀ j, 0 ≤ (conns j).fd → (k.fds (conns j).fd).isSome) (accounts : Accounts k)
    (result : SendResult) : Streams ((k.accept fd).send fd (result.taken response503)) conns := by
  have sent : ∀ id, ((k.accept fd).send fd (result.taken response503)).sent id =
      if id = k.accepted then result.taken response503 else k.sent id := fun id => by
    by_cases here : id = k.accepted
    · simp [Kernel.send, here, ok.unsent _ le_rfl]
    · simp [Kernel.send, here]
  have accepted := ok.accept fresh opened
  refine ⟨fun id => ?_, fun id later => ?_, fun j id taken isOpen => ?_, ok.stored⟩
  · rw [sent]
    split_ifs
    exacts [transcript_taken503 result, ok.transcript id]
  · simp only [Kernel.send_accepted, Kernel.accept_accepted] at later
    rw [sent, if_neg (by omega)]
    exact ok.unsent id (by omega)
  · rw [Kernel.send_fds] at isOpen
    have apart : (conns j).fd ≠ fd := fun same => by simpa [same, fresh] using opened j taken
    have below := accounts.id_lt _ _ (by simpa [apart] using isOpen)
    rw [sent, if_neg (by omega)]
    exact accepted.inFlight j id taken isOpen

/-- A slot that gets an open descriptor whose connection has taken nothing, and no response. -/
theorem fill (ok : Streams k conns) {i : Slot} {c : Connection} {id : Nat}
    (opened : k.fds c.fd = some id) (empty : k.sent id = []) (idle : c.response = none) :
    Streams k (Function.update conns i c) where
  transcript := ok.transcript
  unsent := ok.unsent
  inFlight j id' taken isOpen := by
    by_cases here : j = i
    · subst here
      simp only [Function.update_same] at isOpen ⊢
      rw [opened, Option.some.injEq] at isOpen
      subst isOpen
      exact ⟨[], .nil, by rw [empty, Connection.onSocket_of_none idle]; rfl⟩
    · simp only [Function.update_noteq here] at taken isOpen ⊢
      exact ok.inFlight j id' taken isOpen
  stored j r held := by
    by_cases here : j = i
    · subst here
      simp [idle] at held
    · exact ok.stored j r (by simpa [here] using held)

/-- One turn of the accept loop, whichever way it goes. -/
theorem acceptConnection {w : World} (ok : Streams w.kernel w.connections) (inv : Inv w) {fd : Int}
    (fresh : w.kernel.fds fd = none) (o : AcceptOutcome) :
    Streams (acceptConnection w fd o).kernel (acceptConnection w fd o).connections := by
  have opened : ∀ j, 0 ≤ (w.connections j).fd → (w.kernel.fds (w.connections j).fd).isSome :=
    fun j taken => (inv.slots j taken).opened
  have accepted := ok.accept fresh opened
  unfold EpollWebServer.acceptConnection
  dsimp only
  split_ifs
  · exact accepted.close fd
  split
  · exact (ok.send503 fresh opened inv.accounts o.send).close fd
  · rename_i i conns found
    have slot : (addConnection w.connections fd).1 = some i := by rw [found]
    obtain ⟨-, pool⟩ := addConnection_some slot
    rw [found] at pool
    subst pool
    have installed := accepted.fill (i := i) (c := (w.connections i).install fd) (by simp)
      (ok.unsent _ le_rfl) rfl
    split
    · rename_i k added
      exact installed.epollAdd added
    · exact installed.remove i

/-- `free_connections` only closes descriptors. -/
theorem freeConnections (ok : Streams k conns) : Streams (EpollWebServer.freeConnections conns k) conns :=
  freeConnections_of_close (P := fun k => Streams k conns) (fun _ fd streams => streams.close fd) conns ok

/-- Every step of the loop keeps the streams. -/
theorem step {w w' : World} (ok : Streams w.kernel w.connections) (inv : Inv w) (step : Step w w') :
    Streams w'.kernel w'.connections := by
  cases step with
  | wait => exact ok
  | listen => exact ok
  | accept fd o _ _ fresh => exact ok.acceptConnection inv fresh o
  | acceptEnd => exact ok
  | @client fd i mask rest o next _ fits =>
    exact ok.handleClient inv (inv.pending (.client fd i mask) (by simp [next])) fits
  | shutdown =>
    rw [World.shutdown_kernel, World.shutdown_connections]
    exact ok.freeConnections

end Streams

/-- Every reachable state keeps the streams. -/
theorem Reachable.streams {w : World} (reachable : Reachable w) : Streams w.kernel w.connections := by
  induction reachable with
  | initial => exact Streams.initial
  | step reachable step ih =>
    rcases reachable_inv reachable with inv | stopped
    · exact ih.step inv step
    · exact absurd step stopped.final

/-! ### What the clients receive -/

/-- **Every socket holds whole responses, one after another, then part of one.** In every
reachable state, running or stopped, the bytes each connection's socket has taken are whole
responses, each a 200 reply or one of the error literals, followed by the first bytes of one
more. No byte is skipped or repeated, and responses never interleave. This holds whatever the kernel interleaves: partial and failed sends,
hang-ups, other connections' traffic, and descriptor numbers reused by later connections. -/
theorem reachable_transcript {w : World} (reachable : Reachable w) (id : Nat) :
    Transcript (w.kernel.sent id) :=
  reachable.streams.transcript id

/-- The first connection of a fresh loop, after a write event sent the first three bytes of its
404. -/
theorem firstPartial_transcript : ∃ w, Reachable w ∧ w.kernel.sent 0 = response404.take 3 ∧
    Transcript (w.kernel.sent 0) := by
  obtain ⟨w, reachable, -, -, -, -, -, -, -, -, sent⟩ := reachable_firstPartial 3 (by decide)
  exact ⟨w, reachable, sent, reachable_transcript reachable 0⟩

/-- **An open connection's socket is in step with its slot.** In every reachable state, the
socket of an occupied slot's connection holds whole responses followed by exactly the first
`response_sent` bytes of the slot's response, or nothing more when the slot has none. So a
slot's response goes to its own connection and no other, and the next `send_response` call
continues it where the socket stands. -/
theorem reachable_inFlight {w : World} (reachable : Reachable w) {i : Slot} {id : Nat}
    (occupied : 0 ≤ (w.connections i).fd) (opened : w.kernel.fds (w.connections i).fd = some id) :
    ∃ s, Whole s ∧ w.kernel.sent id = s ++ (w.connections i).onSocket :=
  reachable.streams.inFlight i id occupied opened

/-- The first connection of a fresh loop, after a write event sent the first three bytes of its
404 and left the rest pending. -/
theorem firstResponse_inFlight : ∃ w, Reachable w ∧ 0 ≤ (w.connections 0).fd ∧
    (w.connections 0).response = some response404 ∧ (w.connections 0).responseSent = 3 ∧
    ∃ s, Whole s ∧ w.kernel.sent 0 = s ++ (w.connections 0).onSocket := by
  obtain ⟨w, reachable, -, -, -, fd, opened, -, stored, sent, -⟩ :=
    reachable_firstPartial 3 (by decide)
  exact ⟨w, reachable, by rw [fd]; decide, stored, sent,
    reachable_inFlight reachable (by rw [fd]; decide) (by rw [fd]; exact opened)⟩

/-! ### A client event and the other connections -/

theorem World.dropConnection_sent (w : World) (i : Slot) :
    (w.dropConnection i).kernel.sent = w.kernel.sent := by
  unfold World.dropConnection removeConnection
  split_ifs <;> simp

theorem checkErrors_sent (w : World) (i : Slot) (mask : Mask) :
    (checkErrors w i mask).kernel.sent = w.kernel.sent := by
  unfold checkErrors
  split_ifs
  exacts [w.dropConnection_sent i, rfl]

theorem World.changeToWriteMode_sent (w : World) (i : Slot) (c : Connection) (ctlOk : Bool) :
    (w.changeToWriteMode i c ctlOk).1.kernel.sent = w.kernel.sent := by
  unfold World.changeToWriteMode
  split
  · rename_i k modified
    exact (Kernel.epollMod_sent modified).1
  · exact (w.setConnection i c).dropConnection_sent i

/-- The `EPOLLIN` branch sends nothing. -/
theorem onReadable_sent (w : World) (i : Slot) (o : Outcome) :
    (onReadable w i o).1.kernel.sent = w.kernel.sent := by
  unfold onReadable
  split_ifs
  · rfl
  split
  · rfl
  · exact w.dropConnection_sent i
  · dsimp only
    split_ifs
    · exact w.dropConnection_sent i
    · exact w.changeToWriteMode_sent i _ _
    · exact w.changeToWriteMode_sent i _ _
    · rfl

/-- The whole handler writes to no socket but that of the slot's connection. -/
theorem handleClient_sent_ne (w : World) (i : Slot) (mask : Mask) (o : Outcome) {id other : Nat}
    (opened : w.kernel.fds (w.connections i).fd = some id) (apart : other ≠ id) :
    (handleClient w i mask o).kernel.sent other = w.kernel.sent other := by
  have writable : (onWritable w i o).kernel.sent other = w.kernel.sent other := by
    have sent := (Streams.sendResponse_frame (i := i) opened o.send o.ctlOk).2.2 other apart
    unfold onWritable
    dsimp only
    split_ifs
    · rw [World.dropConnection_sent]; exact sent
    · exact sent
  unfold handleClient
  split_ifs
  · rw [checkErrors_sent, onReadable_sent]
  · rw [onReadable_sent]
  · rw [checkErrors_sent, writable]
  · rw [checkErrors_sent]

end EpollWebServer
