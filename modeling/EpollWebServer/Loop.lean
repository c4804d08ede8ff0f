import EpollWebServer.Write

/-!
**`main`'s event loop as a step relation over the server and the kernel under it.**

A state (`World`) has the pool, `connection_count`, the kernel, the events of the last
`epoll_wait` not handled yet, and whether the accept loop of a listener event is running.
`Step` has one constructor per thing the loop can do next. It waits for a batch. It starts or
ends the accept loop. It takes one `accept`. It handles one client event. Or it shuts down. The
kernel's guarantees restrict the answers the environment may give. A batch reports only
registered descriptors, with their own `data.ptr`, and only the readiness each registered for.
`accept` returns a descriptor that is not open. `recv` and `send` move no more bytes than
asked. Every other answer is free: partial counts, would-block, errors, failed `epoll_ctl`,
`malloc` and `strdup`.

The client handler follows the source's control flow branch by branch. That includes the
`continue`s that skip the error check, and the error check that runs after `send_response`
already released the connection.

* `addConnection_frame`: the pool's frame conditions, and with them the accept loop's
  behaviour on a full pool.
-/

namespace EpollWebServer

/-! ### Events -/

/-- The `events` mask of an `epoll_event`, in the bits the loop tests. -/
structure Mask where
  epollin : Bool
  epollout : Bool
  epollerr : Bool
  epollhup : Bool
  deriving DecidableEq, Repr

/-- One entry of the `events` array `epoll_wait` fills. -/
inductive Event
  /-- `data.ptr == NULL`: the listening socket. -/
  | listener
  /-- A client registration's event with `data.ptr` the slot `ptr`. `fd` names the
  registration that produced it; the code never reads it. -/
  | client (fd : Int) (ptr : Slot) (mask : Mask)
  deriving DecidableEq, Repr

/-- The descriptor behind a client event. -/
def Event.clientFd : Event → Option Int
  | .listener => none
  | .client fd _ _ => some fd

/-- What the kernel guarantees of each event of a batch: a client event comes from the
registration of its descriptor, carries that registration's `data.ptr`, and reports `EPOLLIN`
or `EPOLLOUT` only for the interest registered. Errors and hang-ups are always reported. -/
def Event.Delivered (k : Kernel) : Event → Prop
  | .listener => True
  | .client fd ptr mask => ∃ r, k.epoll fd = some r ∧ r.ptr = ptr ∧
      (mask.epollin = true → r.events = .epollin) ∧ (mask.epollout = true → r.events = .epollout)

/-- A batch `epoll_wait` can return: at most `MAX_EVENTS` events, each delivered, at most one
per registration. -/
def Batch (k : Kernel) (events : List Event) : Prop :=
  events.length ≤ maxEvents ∧ (∀ e ∈ events, e.Delivered k) ∧
    (events.filterMap Event.clientFd).Nodup ∧ events.count .listener ≤ 1

/-! ### The state -/

/-- The state of `main`'s event loop, with the kernel under it. -/
structure World where
  connections : Pool
  connectionCount : Int
  kernel : Kernel
  /-- The events of the last `epoll_wait` not handled yet. -/
  events : List Event
  /-- Inside the accept loop of a listener event. -/
  accepting : Bool
  /-- The loop has not shut down. -/
  running : Bool

/-- The kernel before the first `accept`. -/
def Kernel.initial : Kernel := ⟨fun _ => none, fun _ => none, 0, fun _ => 0, 0, fun _ => []⟩

/-- The loop as it starts: a fresh pool, `connection_count = 0`, no client descriptor. -/
def World.initial : World :=
  ⟨initConnections, 0, Kernel.initial, [], false, true⟩

/-! ### The answers of the environment -/

/-- The outcome of one `recv` call. -/
inductive RecvResult
  /-- `recv` returned `bytes.length`, having stored `bytes`; 0 means the peer closed. -/
  | received (bytes : List UInt8)
  /-- -1 with `errno` `EAGAIN` or `EWOULDBLOCK`. -/
  | wouldBlock
  /-- -1 with another `errno`. -/
  | failed
  deriving DecidableEq, Repr

/-- `recv` stores no more bytes than asked for. -/
def RecvResult.Fits (len : Nat) : RecvResult → Prop
  | received bytes => bytes.length ≤ len
  | _ => True

/-- The answers to the calls one client event makes: `recv`, the collaborators of
`process_http_request`, `send`, and whether `epoll_ctl` has the memory. -/
structure Outcome where
  recv : RecvResult
  collaborators : Collaborators
  send : SendResult
  ctlOk : Bool

/-- The kernel moves no more bytes than asked, on connection `c`. -/
def Outcome.Fits (o : Outcome) (c : Connection) : Prop :=
  o.recv.Fits (bufferSize - c.bufferUsed - 1) ∧ o.send.Fits (c.responseSize - c.responseSent)

/-- The answers to one turn of the accept loop after `accept` returned a descriptor:
`set_nonblocking`, the `send` of the 503 message, and whether `epoll_ctl` has the memory. -/
structure AcceptOutcome where
  nonblockOk : Bool
  send : SendResult
  ctlOk : Bool

/-! ### The loop body -/

/-- `recv (conn->fd, conn->buffer + conn->buffer_used, ...)` storing `bytes`, and
`conn->buffer_used += bytes_read`. -/
def Connection.receive (c : Connection) (bytes : List UInt8) : Connection :=
  { c with buffer := overwrite c.buffer c.bufferUsed bytes,
           bufferUsed := c.bufferUsed + bytes.length,
           length_buffer := by rw [length_overwrite, c.length_buffer] }

@[simp] theorem Connection.receive_fd (c : Connection) (bytes : List UInt8) :
    (c.receive bytes).fd = c.fd := rfl
@[simp] theorem Connection.receive_response (c : Connection) (bytes : List UInt8) :
    (c.receive bytes).response = c.response := rfl
@[simp] theorem Connection.receive_bufferUsed (c : Connection) (bytes : List UInt8) :
    (c.receive bytes).bufferUsed = c.bufferUsed + bytes.length := rfl

/-- `remove_connection (conn); connection_count--;`. -/
def World.dropConnection (w : World) (i : Slot) : World :=
  { w with connections := (removeConnection w.connections w.kernel i).1,
           kernel := (removeConnection w.connections w.kernel i).2,
           connectionCount := w.connectionCount - 1 }

/-- Slot `i` holding `c`. -/
def World.setConnection (w : World) (i : Slot) (c : Connection) : World :=
  { w with connections := Function.update w.connections i c }

@[simp] theorem World.dropConnection_connections (w : World) (i : Slot) :
    (w.dropConnection i).connections = Function.update w.connections i (w.connections i).release :=
  rfl

@[simp] theorem World.setConnection_connections (w : World) (i : Slot) (c : Connection) :
    (w.setConnection i c).connections = Function.update w.connections i c := rfl

@[simp] theorem World.setConnection_kernel (w : World) (i : Slot) (c : Connection) :
    (w.setConnection i c).kernel = w.kernel := rfl

/-- Store `c` in slot `i` and change to write mode with `EPOLL_CTL_MOD`. When that fails, the
connection is dropped and the branch ends in `continue` (`false`: no error check). -/
def World.changeToWriteMode (w : World) (i : Slot) (c : Connection) (ctlOk : Bool) :
    World × Bool :=
  match w.kernel.epollMod c.fd ⟨.epollout, i⟩ ctlOk with
  | some k => ({ w.setConnection i c with kernel := k }, true)
  | none => ((w.setConnection i c).dropConnection i, false)

/-- The `EPOLLIN` branch for slot `i`: the state after, and whether the branch falls through to
the error check (`false` when it ends in `continue`). -/
def onReadable (w : World) (i : Slot) (o : Outcome) : World × Bool :=
  if (w.connections i).response.isSome then (w, false)
  else
    match o.recv with
    | .wouldBlock => (w, false)
    | .failed => (w.dropConnection i, false)
    | .received bytes =>
      if bytes = [] then (w.dropConnection i, false)
      else
        let c := (w.connections i).receive bytes
        if strstr c.buffer headerEnd then
          w.changeToWriteMode i (processHttpRequest c o.collaborators) o.ctlOk
        else if bufferSize - 1 ≤ c.bufferUsed then
          w.changeToWriteMode i (c.store (errorReply response413 o.collaborators.strdupOk)) o.ctlOk
        else (w.setConnection i c, true)

/-- The `EPOLLOUT` branch: `send_response`, then `remove_connection` and `connection_count--`
when it returns -1. -/
def onWritable (w : World) (i : Slot) (o : Outcome) : World :=
  let outcome := sendResponse (w.connections i) i w.kernel o.send o.ctlOk
  let w := { w.setConnection i outcome.2.1 with kernel := outcome.2.2 }
  if outcome.1 < 0 then w.dropConnection i else w

/-- The error check after the branches: `EPOLLERR` or `EPOLLHUP` releases the connection. -/
def checkErrors (w : World) (i : Slot) (mask : Mask) : World :=
  if mask.epollerr || mask.epollhup then w.dropConnection i else w

/-- The loop body for a client event on slot `i`. -/
def handleClient (w : World) (i : Slot) (mask : Mask) (o : Outcome) : World :=
  if mask.epollin then
    if (onReadable w i o).2 then checkErrors (onReadable w i o).1 i mask else (onReadable w i o).1
  else if mask.epollout then checkErrors (onWritable w i o) i mask
  else checkErrors w i mask

/-- One turn of the accept loop after `accept` returned the descriptor `fd`. -/
def acceptConnection (w : World) (fd : Int) (o : AcceptOutcome) : World :=
  let k := w.kernel.accept fd
  if !o.nonblockOk then { w with kernel := k.close fd }
  else
    match addConnection w.connections fd with
    | (none, _) => { w with kernel := (k.send fd (o.send.taken response503)).close fd }
    | (some i, conns) =>
      match k.epollAdd fd ⟨.epollin, i⟩ o.ctlOk with
      | some k =>
        { w with connections := conns, kernel := k, connectionCount := w.connectionCount + 1 }
      | none => { w with connections := (removeConnection conns k i).1,
                         kernel := (removeConnection conns k i).2 }

/-- The clean-up after the loop: `close (epoll_fd)`, `close (server_fd)`, `free_connections`. -/
def World.shutdown (w : World) : World :=
  { w with kernel := freeConnections w.connections w.kernel, running := false }

/- Stated through `unfold`: a bare `rfl` would first try `w.shutdown = w`, and so evaluate
`free_connections` over all `MAX_CONNECTIONS` slots. -/
@[simp] theorem World.shutdown_events (w : World) : w.shutdown.events = w.events := by
  unfold World.shutdown; rfl
@[simp] theorem World.shutdown_accepting (w : World) : w.shutdown.accepting = w.accepting := by
  unfold World.shutdown; rfl
@[simp] theorem World.shutdown_running (w : World) : w.shutdown.running = false := by
  unfold World.shutdown; rfl
@[simp] theorem World.shutdown_kernel (w : World) :
    w.shutdown.kernel = freeConnections w.connections w.kernel := by
  unfold World.shutdown; dsimp only
@[simp] theorem World.shutdown_connections (w : World) : w.shutdown.connections = w.connections := by
  unfold World.shutdown; rfl
@[simp] theorem World.shutdown_connectionCount (w : World) :
    w.shutdown.connectionCount = w.connectionCount := by
  unfold World.shutdown; rfl

/-! ### Runs -/

/-- One step of `main`'s loop, with the kernel's guarantees on the answers it gets. A `send`
that fails with `EPIPE` is not among them: with flags 0 and `SIGPIPE` at its default action it
kills the process, and every connection with it, and no step models that. -/
inductive Step : World → World → Prop
  /-- `epoll_wait` returns a batch: possibly empty, at the timeout or on `EINTR`. -/
  | wait {w : World} (batch : List Event) (running : w.running = true) (idle : w.events = [])
      (notAccepting : w.accepting = false) (delivered : Batch w.kernel batch) :
      Step w { w with events := batch }
  /-- The next event is the listening socket's: the accept loop starts. -/
  | listen {w : World} {rest : List Event} (next : w.events = .listener :: rest)
      (notAccepting : w.accepting = false) : Step w { w with events := rest, accepting := true }
  /-- `accept` returns a descriptor that is not open. -/
  | accept {w : World} (fd : Int) (o : AcceptOutcome) (accepting : w.accepting = true)
      (valid : 0 ≤ fd) (fresh : w.kernel.fds fd = none) (fits : o.send.Fits response503.length) :
      Step w (acceptConnection w fd o)
  /-- `accept` fails, with `EAGAIN` or another error: the accept loop ends. -/
  | acceptEnd {w : World} (accepting : w.accepting = true) : Step w { w with accepting := false }
  /-- The next event is a client's. -/
  | client {w : World} {fd : Int} {i : Slot} {mask : Mask} {rest : List Event} (o : Outcome)
      (next : w.events = .client fd i mask :: rest) (notAccepting : w.accepting = false)
      (fits : o.Fits (w.connections i)) : Step w { handleClient w i mask o with events := rest }
  /-- The loop ends: `keep_running` was cleared, or `epoll_wait` failed and the loop broke out,
  to the same clean-up. -/
  | shutdown {w : World} (running : w.running = true) (idle : w.events = [])
      (notAccepting : w.accepting = false) : Step w w.shutdown

/-- The states the loop reaches from its start. -/
inductive Reachable : World → Prop
  | initial : Reachable World.initial
  | step {w w' : World} : Reachable w → Step w w' → Reachable w'

/-! ### The pool's frame -/

/-- The accept loop on a full pool leaves the pool as it was, whatever else happens. -/
theorem acceptConnection_full (w : World) (fd : Int) (o : AcceptOutcome)
    (full : ∀ i, 0 ≤ (w.connections i).fd) : (acceptConnection w fd o).connections = w.connections := by
  unfold acceptConnection
  dsimp only
  split_ifs
  · rfl
  · split
    · rfl
    · rename_i i conns found
      have none := (addConnection_full w.connections fd).1.mpr full
      rw [found] at none
      cases none

/-- The accept loop leaves the events of the batch alone. -/
@[simp] theorem acceptConnection_events (w : World) (fd : Int) (o : AcceptOutcome) :
    (acceptConnection w fd o).events = w.events := by
  unfold acceptConnection
  dsimp only
  split_ifs
  · rfl
  · split
    · rfl
    · split <;> rfl

/-- The accept loop registers or closes only the descriptor `accept` returned. -/
theorem acceptConnection_epoll_ne (w : World) {fd n : Int} (o : AcceptOutcome) (other : n ≠ fd) :
    (acceptConnection w fd o).kernel.epoll n = w.kernel.epoll n := by
  unfold acceptConnection
  dsimp only
  split_ifs
  · simp [Kernel.close_epoll_ne other]
  · split
    · simp [Kernel.close_epoll_ne other]
    · rename_i i conns found
      obtain ⟨-, pool⟩ := addConnection_some (by rw [found] : (addConnection w.connections fd).1 = some i)
      rw [found] at pool
      subst pool
      split
      · rename_i k added
        obtain ⟨-, -, rfl⟩ := Kernel.epollAdd_eq_some added
        simp [other]
      · simp only [removeConnection, Function.update_same, Connection.install_fd]
        split_ifs <;> simp [Kernel.close_epoll_ne other]

/-- The accept loop opens or closes only the descriptor `accept` returned. -/
theorem acceptConnection_fds_ne (w : World) {fd n : Int} (o : AcceptOutcome) (other : n ≠ fd) :
    (acceptConnection w fd o).kernel.fds n = w.kernel.fds n := by
  unfold acceptConnection
  dsimp only
  split_ifs
  · simp [Kernel.close_fds, other]
  · split
    · simp [Kernel.close_fds, other]
    · rename_i i conns found
      obtain ⟨-, pool⟩ := addConnection_some (by rw [found] : (addConnection w.connections fd).1 = some i)
      rw [found] at pool
      subst pool
      split
      · rename_i k added
        obtain ⟨-, -, rfl⟩ := Kernel.epollAdd_eq_some added
        simp [other]
      · simp only [removeConnection, Function.update_same, Connection.install_fd]
        split_ifs <;> simp [Kernel.close_fds, other]

/-- **`add_connection` and `remove_connection` change only their own slot.** `add_connection`
returns `NULL` exactly on a full pool and then changes nothing. Otherwise it fills a slot that
was free with the new descriptor and a reset request state, and leaves the other slots alone.
`remove_connection` frees its slot and leaves the others alone. An accept on a full pool
leaves the occupied slots as they were, and they never number more than `MAX_CONNECTIONS`. -/
theorem addConnection_frame (conns : Pool) (fd : Int) :
    ((addConnection conns fd).1 = none ↔ ∀ i, 0 ≤ (conns i).fd) ∧
    ((addConnection conns fd).1 = none → (addConnection conns fd).2 = conns) ∧
    (∀ i, (addConnection conns fd).1 = some i → (conns i).fd < 0 ∧
      ((addConnection conns fd).2 i).fd = fd ∧ ((addConnection conns fd).2 i).bufferUsed = 0 ∧
      ((addConnection conns fd).2 i).response = none ∧
      ((addConnection conns fd).2 i).responseSize = 0 ∧
      ((addConnection conns fd).2 i).responseSent = 0 ∧
      ((addConnection conns fd).2 i).keepAlive = false ∧
      ∀ j, j ≠ i → (addConnection conns fd).2 j = conns j) ∧
    (∀ k i, ((removeConnection conns k i).1 i).fd = -1 ∧
      ((removeConnection conns k i).1 i).response = none ∧
      ((removeConnection conns k i).1 i).responseSize = 0 ∧
      ((removeConnection conns k i).1 i).responseSent = 0 ∧
      ∀ j, j ≠ i → (removeConnection conns k i).1 j = conns j) ∧
    (∀ w o, w.connections = conns → (∀ i, 0 ≤ (conns i).fd) →
      occupied (acceptConnection w fd o).connections = occupied conns) ∧
    (occupied conns).card ≤ maxConnections := by
  refine ⟨(addConnection_full conns fd).1, (addConnection_full conns fd).2, fun i found => ?_,
    fun k i => ⟨by simp, by simp, by simp, by simp, fun j other => by simp [other]⟩,
    fun w o pool full => ?_, card_occupied_le conns⟩
  · obtain ⟨free, filled⟩ := addConnection_some found
    rw [filled]
    exact ⟨free, by simp, by simp [Connection.install], by simp [Connection.install],
      by simp [Connection.install], by simp [Connection.install], by simp [Connection.install],
      fun j other => by simp [other]⟩
  · subst pool
    rw [acceptConnection_full w fd o full]

/-! ### The steps of a session -/

/-- The accept loop installs `fd` in the first free slot `i` and registers it for `EPOLLIN`. -/
theorem acceptConnection_installs (w : World) {fd : Int} {i : Slot} {o : AcceptOutcome}
    (first : firstFree w.connections 0 = some i) (nonblock : o.nonblockOk = true)
    (unregistered : w.kernel.epoll fd = none) (ctl : o.ctlOk = true) :
    acceptConnection w fd o =
      { w with connections := Function.update w.connections i ((w.connections i).install fd),
               kernel := { w.kernel.accept fd with
                 epoll := Function.update w.kernel.epoll fd (some ⟨.epollin, i⟩) },
               connectionCount := w.connectionCount + 1 } := by
  simp [acceptConnection, nonblock, addConnection, first, Kernel.epollAdd, ctl, unregistered]

/-- A read event whose bytes complete a request, as `strstr` sees the buffer: the request is
processed and the slot switched to `EPOLLOUT`. -/
theorem handleClient_processes (w : World) {i : Slot} {o : Outcome} {bytes : List UInt8}
    (idle : (w.connections i).response = none) (received : o.recv = .received bytes)
    (nonempty : bytes ≠ []) (complete : strstr ((w.connections i).receive bytes).buffer headerEnd = true)
    (registered : (w.kernel.epoll (w.connections i).fd).isSome) (ctl : o.ctlOk = true) :
    handleClient w i ⟨true, false, false, false⟩ o =
      { w.setConnection i (processHttpRequest ((w.connections i).receive bytes) o.collaborators) with
        kernel := { w.kernel with
          epoll := Function.update w.kernel.epoll (w.connections i).fd (some ⟨.epollout, i⟩) } } := by
  simp [handleClient, onReadable, idle, received, nonempty, complete, World.changeToWriteMode,
    Kernel.epollMod, ctl, registered, checkErrors]

/-- A read event whose bytes neither complete a request, as `strstr` sees the buffer, nor fill
the buffer: the slot keeps reading, and the error check runs. -/
theorem handleClient_keepsReading (w : World) {i : Slot} {o : Outcome} {bytes : List UInt8}
    (idle : (w.connections i).response = none) (received : o.recv = .received bytes)
    (nonempty : bytes ≠ [])
    (incomplete : strstr ((w.connections i).receive bytes).buffer headerEnd = false)
    (room : (w.connections i).bufferUsed + bytes.length < bufferSize - 1) :
    handleClient w i ⟨true, false, false, false⟩ o =
      w.setConnection i ((w.connections i).receive bytes) := by
  simp [handleClient, onReadable, idle, received, nonempty, incomplete, not_le.mpr room,
    checkErrors]

/-- A write event whose `send` fails on a pending response: `send_response` returns -1 and the
connection is released, and the error check runs after that. -/
theorem handleClient_sendFails (w : World) (i : Slot) {mask : Mask} (o : Outcome)
    (writable : mask.epollin = false ∧ mask.epollout = true)
    (pending : (w.connections i).response.isSome) (failed : o.send = .failed) :
    handleClient w i mask o = checkErrors (w.dropConnection i) i mask := by
  obtain ⟨r, stored⟩ := Option.isSome_iff_exists.mp pending
  simp [handleClient, writable, onWritable, sendResponse, stored, failed, World.setConnection]

/-- A write event whose `send` takes `count` bytes of a pending response, short of its end:
`send_response` returns 0, and only `response_sent` and the socket change. -/
theorem handleClient_sendsPart (w : World) (i : Slot) {o : Outcome} {r : List UInt8} {count : Nat}
    (pending : (w.connections i).response = some r) (taken : o.send = .accepted count)
    (short : ¬(w.connections i).responseSize ≤ (w.connections i).responseSent + count) :
    handleClient w i ⟨false, true, false, false⟩ o =
      { w.setConnection i { w.connections i with responseSent := (w.connections i).responseSent + count } with
        kernel := w.kernel.send (w.connections i).fd (((r.drop (w.connections i).responseSent).take
          ((w.connections i).responseSize - (w.connections i).responseSent)).take count) } := by
  simp [handleClient, onWritable, taken, sendResponse_short pending _ _ _ short, checkErrors]

/-- A fresh loop serves its first connection: the listener's event, `fd` accepted into slot 0,
and a read event that brings a whole request. The request is processed and its response waits
under `EPOLLOUT`. -/
theorem reachable_firstRequest {fd : Int} (valid : 0 ≤ fd) (request : List UInt8)
    (env : Collaborators) (nonempty : request ≠ []) (fits : request.length ≤ bufferSize - 1)
    (complete : strstr ((Connection.unused.install fd).receive request).buffer headerEnd = true) :
    Reachable
      { World.initial with
        connections := Function.update initConnections 0
          (processHttpRequest ((Connection.unused.install fd).receive request) env)
        connectionCount := 1
        kernel := { Kernel.initial.accept fd with
          epoll := Function.update Kernel.initial.epoll fd (some ⟨.epollout, 0⟩) } } := by
  -- the listener's event, and `fd` accepted into slot 0
  have listening : Reachable { World.initial with events := [], accepting := true } :=
    .step (.step .initial (.wait [.listener] rfl rfl rfl
      ⟨by decide, by simp [Event.Delivered], by decide, by decide⟩)) (.listen rfl rfl)
  have accepted := Reachable.step listening
    (Step.accept fd ⟨true, .failed, true⟩ rfl valid rfl trivial)
  rw [acceptConnection_installs _ (firstFree_of_free_zero (by decide)) rfl rfl rfl] at accepted
  -- its read event, with the whole request
  have reading := Reachable.step (Reachable.step accepted (.acceptEnd rfl))
    (.wait [.client fd 0 ⟨true, false, false, false⟩] rfl rfl rfl
      ⟨by simp [maxEvents], by simp [Event.Delivered], List.nodup_singleton fd, by simp⟩)
  have served := Reachable.step reading (Step.client ⟨.received request, env, .failed, true⟩ rfl rfl
    ⟨by simpa [RecvResult.Fits, World.initial, initConnections, Connection.install] using fits,
      trivial⟩)
  rw [handleClient_processes _ (by simp [World.initial, initConnections, Connection.install,
    Connection.unused]) rfl nonempty (by simpa [World.initial, initConnections] using complete)
    (by simp [Function.update_apply]) rfl] at served
  simpa [World.setConnection, World.initial, initConnections, Function.update_idem] using served

/-- The first connection of a fresh loop, descriptor 5, asks for `/` and finds no document root.
Its read event stores the 404, and a write event whose `send` takes `count` of its bytes, fewer
than all, puts them on the socket. The response stays pending under `EPOLLOUT`. -/
theorem reachable_firstPartial (count : Nat) (short : count < response404.length) :
    ∃ w, Reachable w ∧ w.running = true ∧ w.events = [] ∧ w.accepting = false ∧
      (w.connections 0).fd = 5 ∧ w.kernel.fds 5 = some 0 ∧ w.kernel.epoll 5 = some ⟨.epollout, 0⟩ ∧
      (w.connections 0).response = some response404 ∧ (w.connections 0).responseSent = count ∧
      w.kernel.sent 0 = response404.take count := by
  let env : Collaborators := ⟨fun _ => none, true, true⟩
  let writing : Mask := ⟨false, true, false, false⟩
  have served := reachable_firstRequest (by decide : (0 : Int) ≤ 5) (bytesOf "GET / HTTP/1.1\r\n\r\n") env
    (by decide) (by decide) (by decide)
  generalize stores : processHttpRequest ((Connection.unused.install 5).receive
    (bytesOf "GET / HTTP/1.1\r\n\r\n")) env = first at served
  have fd : first.fd = 5 := by rw [← stores]; rfl
  have stored : first.response = some response404 := by rw [← stores]; decide
  have size : first.responseSize = response404.length := by rw [← stores]; decide
  have unsent : first.responseSent = 0 := by rw [← stores]; rfl
  have sent := Reachable.step (Reachable.step served (.wait [.client 5 0 writing] rfl rfl rfl
      ⟨by decide, by simp [Event.Delivered, writing, fd], by decide, by decide⟩))
    (Step.client ⟨.wouldBlock, env, .accepted count, true⟩ rfl rfl
      ⟨trivial, show count ≤ first.responseSize - first.responseSent by omega⟩)
  rw [handleClient_sendsPart _ 0 (by simpa using stored) rfl
    (show ¬first.responseSize ≤ first.responseSent + count by omega)] at sent
  refine ⟨_, sent, rfl, rfl, rfl, ?_, ?_, ?_, ?_, ?_, ?_⟩
  all_goals simp [World.setConnection, Kernel.send, stored, size, unsent, fd,
    Kernel.initial]

/-- The first client of a fresh loop, descriptor 5, asks for `/` and finds no document root. The
`send` of its 404 fails, so the connection is released and its descriptor closed. The next client
gets descriptor 5 and slot 0 back, with the first request still in the buffer. -/
theorem reachable_secondClient : ∃ w, Reachable w ∧ w.running = true ∧ w.events = [] ∧
    w.accepting = false ∧ w.connections 0 = (processHttpRequest ((Connection.unused.install 5).receive
      (bytesOf "GET / HTTP/1.1\r\n\r\n")) ⟨fun _ => none, true, true⟩).release.install 5 ∧
    w.kernel.fds 5 = some 1 ∧ w.kernel.epoll 5 = some ⟨.epollin, 0⟩ ∧ w.kernel.closes 0 = 1 := by
  let env : Collaborators := ⟨fun _ => none, true, true⟩
  let writing : Mask := ⟨false, true, false, false⟩
  have served := reachable_firstRequest (by decide : (0 : Int) ≤ 5) (bytesOf "GET / HTTP/1.1\r\n\r\n") env
    (by decide) (by decide) (by decide)
  generalize stores : processHttpRequest ((Connection.unused.install 5).receive
    (bytesOf "GET / HTTP/1.1\r\n\r\n")) env = first at served ⊢
  have fd : first.fd = 5 := by rw [← stores]; rfl
  have pending : first.response.isSome := by rw [← stores]; decide
  -- the first client: the send of its 404 fails, and it is released
  have released := Reachable.step (Reachable.step served (.wait [.client 5 0 writing] rfl rfl rfl
      ⟨by decide, by simp [Event.Delivered, writing, fd], by decide, by decide⟩))
    (Step.client ⟨.wouldBlock, env, .failed, true⟩ rfl rfl ⟨trivial, trivial⟩)
  rw [handleClient_sendFails _ 0 _ (⟨rfl, rfl⟩ : writing.epollin = false ∧ writing.epollout = true)
    (by simpa using pending) rfl] at released
  obtain ⟨w, released, idle, notAccepting, running, pool, closed, unregistered, once, count⟩ : ∃ w,
      Reachable w ∧ w.events = [] ∧ w.accepting = false ∧ w.running = true ∧
      w.connections = Function.update initConnections 0 first.release ∧
      w.kernel.fds 5 = none ∧ w.kernel.epoll 5 = none ∧ w.kernel.closes 0 = 1 ∧ w.kernel.accepted = 1 := by
    refine ⟨_, released, rfl, rfl, rfl, ?_, ?_, ?_, ?_, ?_⟩ <;>
      simp [checkErrors, writing, World.dropConnection, removeConnection, fd, Kernel.close_fds,
        Kernel.close_epoll_of_open, Kernel.close, Kernel.initial]
  -- the second client gets descriptor 5 and slot 0 back
  have listening : Reachable { w with events := [], accepting := true } :=
    .step (.step released (.wait [.listener] running idle notAccepting
      ⟨by decide, by simp [Event.Delivered], by decide, by decide⟩)) (.listen rfl notAccepting)
  have accepted := Reachable.step listening
    (Step.accept 5 ⟨true, .failed, true⟩ rfl (by decide) closed trivial)
  rw [acceptConnection_installs { w with events := [], accepting := true }
    (firstFree_of_free_zero (by simp [pool])) rfl unregistered rfl] at accepted
  exact ⟨_, accepted.step (.acceptEnd rfl), running, rfl, rfl, by simp [pool], by simp [count], by simp,
    by simpa using once⟩

end EpollWebServer
