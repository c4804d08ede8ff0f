import EpollWebServer.Service

/-!
**Lifecycle: a failure releases its connection, other connections' events leave it alone, and
the pool bounds what is open.**

In the spec's connection lifecycle, an I/O failure sends a connection from any state straight to
`Closed`, and the failure touches no other connection. The loop orders the events of different
connections as the batches come, and only the order within one connection is fixed. Its
admission control bounds the number of connections open at once by the pool's capacity.

* `reachable_failureReleases`: each failure the lifecycle names (`Failure`) frees the event's
  slot and closes its descriptor whatever `keep_alive` says, and leaves every other slot as it
  was. The failures are a hard `recv` error, a `send` error other than `EPIPE`, a zero-length
  read, a failed `EPOLL_CTL_MOD`, and `EPOLLERR` or `EPOLLHUP` on a branch that reaches the
  error check. The one flagged error the handler lets pass is a read event whose `recv` would
  block. That branch ends in `continue` before the check. A `send` that fails with `EPIPE` is
  no such failure: `SIGPIPE` at its default action kills the process, and every connection
  with it, which the model leaves out.
* `reachable_othersInvisible`: **what a connection sees depends on its own events only.** Over
  every run that handles no event of slot `i` and does not shut down, whatever the other
  clients, the accept loop and the kernel do, slot `i`, its descriptor's registration and its
  socket stay exactly as they were. One step of each kind keeps them (`StepAway.untouched`), and
  the run follows by induction.
* `reachable_sessionAmongOthers`: a slot ready for a request stays ready through such a run
  (`Ready.away`), so its keep-alive session is answered after the other clients' run exactly as
  it is alone.
* `reachable_completesWhole`: the write event that sends a response's last bytes leaves whole
  responses only on the socket, whether the connection is then re-armed or released.
* `reachable_openBounded`: in every state the loop reaches, at most `MAX_CONNECTIONS` client
  descriptors are open. Each open one is the descriptor of an occupied slot.
-/

namespace EpollWebServer

/-! ### Failures -/

/-- The failures of the spec's connection lifecycle, as they show in the answers to one client
event with readiness `mask` on the connection `c`. -/
inductive Failure (c : Connection) (mask : Mask) (o : Outcome) : Prop
  /-- `recv` fails with an error other than would-block. -/
  | readFailed (readable : mask.epollin = true) (failed : o.recv = .failed)
  /-- `recv` returns 0: the peer closed. -/
  | peerClosed (readable : mask.epollin = true) (closed : o.recv = .received [])
  /-- The `EPOLL_CTL_MOD` to write mode fails, after bytes that complete the request or fill
  the buffer. -/
  | switchFailed {bytes : List UInt8} (readable : mask.epollin = true)
      (received : o.recv = .received bytes) (nonempty : bytes ≠ [])
      (parsed : strstr (c.receive bytes).buffer headerEnd = true ∨
        bufferSize - 1 ≤ c.bufferUsed + bytes.length)
      (ctl : o.ctlOk = false)
  /-- `send` fails with an error other than would-block and `EPIPE`, such as `ECONNRESET`. -/
  | writeFailed (writable : mask.epollin = false ∧ mask.epollout = true) (failed : o.send = .failed)
  /-- The `EPOLL_CTL_MOD` back to read mode fails after the last bytes of a keep-alive
  response. -/
  | rearmFailed (writable : mask.epollin = false ∧ mask.epollout = true)
      (keepAlive : c.keepAlive = true) (last : o.send = .accepted (c.responseSize - c.responseSent))
      (ctl : o.ctlOk = false)
  /-- `EPOLLERR` or `EPOLLHUP` on an event whose branch reaches the error check. -/
  | hungUp (flagged : (mask.epollerr || mask.epollhup) = true)
      (reached : mask.epollin = true → o.recv ≠ .wouldBlock)

@[simp] theorem World.dropConnection_fd (w : World) (i : Slot) :
    ((w.dropConnection i).connections i).fd = -1 := by
  simp

theorem checkErrors_fd_of_released {w : World} {i : Slot} (mask : Mask)
    (released : (w.connections i).fd = -1) : ((checkErrors w i mask).connections i).fd = -1 := by
  unfold checkErrors; split_ifs <;> simp [released]

theorem checkErrors_fd_of_flagged (w : World) (i : Slot) {mask : Mask}
    (flagged : (mask.epollerr || mask.epollhup) = true) :
    ((checkErrors w i mask).connections i).fd = -1 := by
  simp [checkErrors, flagged]

/-- A switch to write mode that ends the branch in `continue` has released the slot. -/
theorem World.changeToWriteMode_continue (w : World) (i : Slot) (c : Connection) (ok : Bool)
    (ended : (w.changeToWriteMode i c ok).2 = false) :
    ((w.changeToWriteMode i c ok).1.connections i).fd = -1 := by
  unfold World.changeToWriteMode at ended ⊢
  split
  · simp_all
  · simp

/-- A read branch that ends in `continue`, unless `recv` would block, has released the slot. -/
theorem onReadable_continue (w : World) (i : Slot) {o : Outcome}
    (idle : (w.connections i).response = none) (notBlocked : o.recv ≠ .wouldBlock)
    (ended : (onReadable w i o).2 = false) : ((onReadable w i o).1.connections i).fd = -1 := by
  unfold onReadable at ended ⊢
  simp only [idle, Option.isSome_none, Bool.false_eq_true, if_false] at ended ⊢
  cases received : o.recv with
  | wouldBlock => exact absurd received notBlocked
  | failed => simp
  | received bytes =>
    simp only [received] at ended ⊢
    split_ifs at ended ⊢
    · simp
    · exact World.changeToWriteMode_continue _ _ _ _ ended
    · exact World.changeToWriteMode_continue _ _ _ _ ended

/-- `send_response` returns -1 on a failed `send`. -/
theorem sendResponse_failed (c : Connection) (i : Slot) (k : Kernel) (ok : Bool) :
    (sendResponse c i k .failed ok).1 = -1 := by
  unfold sendResponse; split <;> rfl

/-- `send_response` returns -1 when the last bytes of a keep-alive response leave and the
`EPOLL_CTL_MOD` back to read mode fails. -/
theorem sendResponse_rearmFailed {c : Connection} (keepAlive : c.keepAlive = true) (i : Slot)
    (k : Kernel) : (sendResponse c i k (.accepted (c.responseSize - c.responseSent)) false).1 = -1 := by
  have whole : c.responseSize ≤ c.responseSent + (c.responseSize - c.responseSent) := by omega
  unfold sendResponse; split
  · rfl
  · simp [whole, keepAlive, Kernel.epollMod]

theorem onWritable_released {w : World} {i : Slot} {o : Outcome}
    (negative : (sendResponse (w.connections i) i w.kernel o.send o.ctlOk).1 < 0) :
    ((onWritable w i o).connections i).fd = -1 := by
  simp [onWritable, negative]

/-- Each failure frees the event's slot. -/
theorem handleClient_releases {w : World} {i : Slot} {mask : Mask} {o : Outcome}
    (idle : mask.epollin = true → (w.connections i).response = none)
    (failure : Failure (w.connections i) mask o) :
    ((handleClient w i mask o).connections i).fd = -1 := by
  -- a read branch that ends in `continue` leaves the slot as `onReadable` does
  have continued : mask.epollin = true → o.recv ≠ .wouldBlock → (onReadable w i o).2 = false →
      ((handleClient w i mask o).connections i).fd = -1 := fun readable notBlocked ended => by
    simpa [handleClient, readable, ended] using
      onReadable_continue w i (idle readable) notBlocked ended
  cases failure with
  | readFailed readable failed =>
    exact continued readable (by simp [failed]) (by simp [onReadable, idle readable, failed])
  | peerClosed readable closed =>
    exact continued readable (by simp [closed]) (by simp [onReadable, idle readable, closed])
  | switchFailed readable received nonempty parsed ctl =>
    refine continued readable (by simp [received]) ?_
    have noMemory : ∀ c, (w.changeToWriteMode i c o.ctlOk).2 = false := fun c => by
      simp [World.changeToWriteMode, Kernel.epollMod, ctl]
    simp only [onReadable, idle readable, received, nonempty, Option.isSome_none,
      Bool.false_eq_true, if_false, Connection.receive_bufferUsed]
    split_ifs with complete full
    · exact noMemory _
    · exact noMemory _
    · exact absurd (parsed.resolve_left (by simpa using complete)) full
  | writeFailed writable failed =>
    simp only [handleClient, writable, Bool.false_eq_true, if_false, if_true]
    exact checkErrors_fd_of_released mask
      (onWritable_released (by rw [failed, sendResponse_failed]; decide))
  | rearmFailed writable keepAlive last ctl =>
    simp only [handleClient, writable, Bool.false_eq_true, if_false, if_true]
    exact checkErrors_fd_of_released mask
      (onWritable_released (by rw [last, ctl, sendResponse_rearmFailed keepAlive]; decide))
  | hungUp flagged reached =>
    unfold handleClient
    split_ifs with readable through
    · exact checkErrors_fd_of_flagged _ _ flagged
    · exact onReadable_continue w i (idle readable) (reached readable) (by simpa using through)
    · exact checkErrors_fd_of_flagged _ _ flagged
    · exact checkErrors_fd_of_flagged _ _ flagged

/-- **A failure releases its connection, and only its connection.** In every running state the
loop reaches, take the client event at the head of its batch on slot `i`, and answers to its
calls with one of the lifecycle's failures. Whatever `keep_alive` says, the handler leaves slot
`i` free and its descriptor closed, and changes no other slot of the pool. A `send` failing
with `EPIPE` is not among the failures: it kills the process instead. -/
theorem reachable_failureReleases {w : World} (reachable : Reachable w) (running : w.running = true)
    {fd : Int} {i : Slot} {mask : Mask} {rest : List Event}
    (next : w.events = .client fd i mask :: rest) {o : Outcome} (fits : o.Fits (w.connections i))
    (failure : Failure (w.connections i) mask o) :
    FreeOk ((handleClient w i mask o).connections i) ∧ (handleClient w i mask o).kernel.fds fd = none ∧
      ∀ j, j ≠ i → (handleClient w i mask o).connections j = w.connections j := by
  have inv := reachable.inv running
  have delivered := inv.pending (.client fd i mask) (by simp [next])
  obtain ⟨fdEq, valid, r, registered, ptr, input, -⟩ := inv.slot_of_delivered delivered
  have effect := handleClient_effect inv delivered fits
  -- a read event comes from an `EPOLLIN` registration, and such a slot holds no response
  have idle : mask.epollin = true → (w.connections i).response = none := fun readable =>
    ((inv.slots i (fdEq ▸ valid)).reading (by rw [fdEq, registered, ← ptr, ← input readable])).1
  have released := handleClient_releases idle failure
  rcases effect.kept_or_dropped with ⟨-, sameFd, -⟩ | ⟨k, -, dropped, free⟩
  · rw [released, fdEq] at sameFd; omega
  · exact ⟨free, by simp [dropped, Kernel.close_fds, fdEq], effect.others⟩

/-- The write event on the first connection of a fresh loop, with a `send` that fails, say with
`ECONNRESET`. -/
theorem firstWrite_failureReleased : ∃ w : World, ∃ o : Outcome, Reachable w ∧
    FreeOk ((handleClient w 0 ⟨false, true, false, false⟩ o).connections 0) ∧
      (handleClient w 0 ⟨false, true, false, false⟩ o).kernel.fds 5 = none := by
  have served := reachable_firstRequest (by decide : (0 : Int) ≤ 5) (bytesOf "GET / HTTP/1.1\r\n\r\n")
    ⟨fun _ => none, true, true⟩ (by decide) (by decide) (by decide)
  have writing := Reachable.step served (.wait [.client 5 0 ⟨false, true, false, false⟩] rfl rfl rfl
    ⟨by decide, by simp [Event.Delivered], by decide, by decide⟩)
  let o : Outcome := ⟨.wouldBlock, ⟨fun _ => none, true, true⟩, .failed, true⟩
  obtain ⟨free, closed, -⟩ := reachable_failureReleases writing rfl rfl (o := o) ⟨trivial, trivial⟩
    (.writeFailed ⟨rfl, rfl⟩ rfl)
  exact ⟨_, o, writing, free, closed⟩

/-! ### Other connections' events -/

/-- The next step handles an event of slot `i`: the loop is past the accept loop, and the next
event of the batch is one of slot `i`'s. -/
def World.handles (w : World) (i : Slot) : Bool :=
  !w.accepting && match w.events with
    | .client _ j _ :: _ => j == i
    | _ => false

/-- A step of the loop that handles no event of slot `i` and does not shut the loop down. -/
def StepAway (i : Slot) (w w' : World) : Prop :=
  Step w w' ∧ w.handles i = false ∧ w'.running = true

/-- `k'` is `k` as far as the descriptor `fd` and its connection `id` go: the same open state
and registration of `fd`, and the same bytes on the socket of `id`. -/
structure Kernel.Untouched (k k' : Kernel) (fd : Int) (id : Nat) : Prop where
  fds_eq : k'.fds fd = k.fds fd
  epoll_eq : k'.epoll fd = k.epoll fd
  sent_eq : k'.sent id = k.sent id

namespace Kernel.Untouched

variable {k k₁ k₂ : Kernel} {fd n : Int} {id : Nat}

theorem refl (k : Kernel) (fd : Int) (id : Nat) : Untouched k k fd id := ⟨rfl, rfl, rfl⟩

theorem trans (first : Untouched k k₁ fd id) (second : Untouched k₁ k₂ fd id) : Untouched k k₂ fd id :=
  ⟨second.fds_eq.trans first.fds_eq, second.epoll_eq.trans first.epoll_eq,
    second.sent_eq.trans first.sent_eq⟩

theorem accept (apart : fd ≠ n) : Untouched k (k.accept n) fd id := ⟨by simp [apart], rfl, rfl⟩

theorem close (apart : fd ≠ n) : Untouched k (k.close n) fd id :=
  ⟨by simp [Kernel.close_fds, apart], Kernel.close_epoll_ne apart, by simp⟩

theorem send (other : k.fds n ≠ some id) (bytes : List UInt8) : Untouched k (k.send n bytes) fd id :=
  ⟨by simp, by simp, (Kernel.Keeps.send other bytes).sent_eq⟩

theorem epollAdd {r : Registration} {ok : Bool} (added : k.epollAdd n r ok = some k₁)
    (apart : fd ≠ n) : Untouched k k₁ fd id := by
  obtain ⟨-, -, rfl⟩ := Kernel.epollAdd_eq_some added
  exact ⟨rfl, by simp [apart], rfl⟩

end Kernel.Untouched

/-- The accept loop fills a free slot, and touches only the descriptor `accept` returned and the
new connection. -/
theorem acceptConnection_untouched (w : World) {fd : Int} (o : AcceptOutcome) {i : Slot}
    (occupied : 0 ≤ (w.connections i).fd) {id : Nat}
    (opened : w.kernel.fds (w.connections i).fd = some id) (fresh : w.kernel.fds fd = none)
    (older : id < w.kernel.accepted) :
    (acceptConnection w fd o).connections i = w.connections i ∧
      Kernel.Untouched w.kernel (acceptConnection w fd o).kernel (w.connections i).fd id := by
  have apart : (w.connections i).fd ≠ fd := fun same => by simp [same, fresh] at opened
  have accepted : Kernel.Untouched w.kernel (w.kernel.accept fd) (w.connections i).fd id :=
    .accept apart
  unfold acceptConnection
  dsimp only
  split_ifs
  · exact ⟨rfl, accepted.trans (.close apart)⟩
  · split
    · exact ⟨rfl, accepted.trans ((Kernel.Untouched.send (by simp; omega) _).trans (.close apart))⟩
    · rename_i j conns found
      obtain ⟨free, pool⟩ := addConnection_some (by rw [found] : (addConnection w.connections fd).1 = some j)
      rw [found] at pool
      subst pool
      have other : i ≠ j := fun same => by rw [same] at occupied; omega
      split
      · rename_i k added
        exact ⟨by simp [other], accepted.trans (.epollAdd added apart)⟩
      · simp only [removeConnection, Function.update_same, Connection.install_fd]
        refine ⟨by simp [other], ?_⟩
        split_ifs
        exacts [accepted.trans (.close apart), accepted]

/-- A client event on another slot leaves slot `i` and its connection alone. -/
theorem handleClient_untouched {w : World} (inv : Inv w) {fd : Int} {j : Slot} {mask : Mask}
    (delivered : (Event.client fd j mask).Delivered w.kernel) {o : Outcome}
    (fits : o.Fits (w.connections j)) {i : Slot} (other : i ≠ j) (occupied : 0 ≤ (w.connections i).fd)
    {id : Nat} (opened : w.kernel.fds (w.connections i).fd = some id) :
    (handleClient w j mask o).connections i = w.connections i ∧
      Kernel.Untouched w.kernel (handleClient w j mask o).kernel (w.connections i).fd id := by
  have effect := handleClient_effect inv delivered fits
  obtain ⟨fdEq, valid, -⟩ := inv.slot_of_delivered delivered
  obtain ⟨id', opened'⟩ := Option.isSome_iff_exists.mp (inv.slots j (fdEq ▸ valid)).opened
  have apart : (w.connections i).fd ≠ (w.connections j).fd :=
    fun same => other (inv.injective i j occupied same)
  have frame := effect.frame (by simp [opened']) _ apart
  refine ⟨effect.others i other, frame.1, frame.2, handleClient_sent_ne w j mask o opened' ?_⟩
  rintro rfl
  exact apart (inv.accounts.id_injective _ _ _ opened opened')

/-- One step away from slot `i` leaves slot `i` and its connection alone. -/
theorem StepAway.untouched {w w' : World} (inv : Inv w) {i : Slot} (step : StepAway i w w')
    (occupied : 0 ≤ (w.connections i).fd) {id : Nat}
    (opened : w.kernel.fds (w.connections i).fd = some id) :
    w'.connections i = w.connections i ∧ Kernel.Untouched w.kernel w'.kernel (w.connections i).fd id := by
  obtain ⟨step, away, running⟩ := step
  cases step with
  | wait => exact ⟨rfl, .refl _ _ _⟩
  | listen => exact ⟨rfl, .refl _ _ _⟩
  | accept fd o _ _ fresh =>
    exact acceptConnection_untouched w o occupied opened fresh (inv.accounts.id_lt _ _ opened)
  | acceptEnd => exact ⟨rfl, .refl _ _ _⟩
  | @client fd j mask rest o next notAccepting fits =>
    have other : i ≠ j := by
      rintro rfl
      simp [World.handles, next, notAccepting] at away
    exact handleClient_untouched inv (inv.pending (.client fd j mask) (by simp [next])) fits other
      occupied opened
  | shutdown => simp at running

/-- A run away from slot `i` leaves slot `i` and its connection alone. -/
theorem Reachable.untouched {w w' : World} (reachable : Reachable w) {i : Slot}
    (run : Relation.ReflTransGen (StepAway i) w w') {id : Nat}
    (opened : w.kernel.fds (w.connections i).fd = some id) :
    w'.connections i = w.connections i ∧ Kernel.Untouched w.kernel w'.kernel (w.connections i).fd id := by
  induction run with
  | refl => exact ⟨rfl, .refl _ _ _⟩
  | @tail w₁ w₂ earlier step ih =>
    obtain ⟨sameSlot, untouched⟩ := ih
    have inv := (reachable.run (earlier.mono fun _ _ away => away.1)).inv_of_step step.1
    have opened₁ : w₁.kernel.fds (w₁.connections i).fd = some id := by
      rw [sameSlot, untouched.fds_eq, opened]
    obtain ⟨_, valid, owner⟩ := inv.owned (w₁.connections i).fd (by simp [opened₁])
    have now := step.untouched inv (owner ▸ valid) opened₁
    rw [sameSlot] at now
    exact ⟨now.1, untouched.trans now.2⟩

/-- **What a connection sees depends on its own events only.** In every state the loop reaches,
take an open connection `id` in slot `i`. On every run from there that handles no event of slot
`i` and does not shut down, whatever the other clients, the accept loop and the kernel do, slot
`i` holds exactly what it held, its descriptor is still open on `id` with the same registration,
and its socket has taken no byte. -/
theorem reachable_othersInvisible {w w' : World} (reachable : Reachable w) {i : Slot}
    (run : Relation.ReflTransGen (StepAway i) w w') {id : Nat}
    (opened : w.kernel.fds (w.connections i).fd = some id) :
    w'.connections i = w.connections i ∧ w'.kernel.fds (w.connections i).fd = some id ∧
      w'.kernel.epoll (w.connections i).fd = w.kernel.epoll (w.connections i).fd ∧
      w'.kernel.sent id = w.kernel.sent id := by
  obtain ⟨same, untouched⟩ := reachable.untouched run opened
  exact ⟨same, untouched.fds_eq.trans opened, untouched.epoll_eq, untouched.sent_eq⟩

/-- The first connection of a fresh loop, while the loop accepts a second one into slot 1. -/
theorem secondAccept_invisible : ∃ w w' : World, Reachable w ∧
    Relation.ReflTransGen (StepAway 0) w w' ∧ w.kernel.fds (w.connections 0).fd = some 0 ∧
    (w'.connections 1).fd = 6 ∧ w'.connections 0 = w.connections 0 ∧
    w'.kernel.sent 0 = w.kernel.sent 0 := by
  let w : World := { World.initial with
    connections := Function.update initConnections 0 (Connection.unused.install 5)
    connectionCount := 1
    kernel := { Kernel.initial.accept 5 with
      epoll := Function.update Kernel.initial.epoll 5 (some ⟨.epollin, 0⟩) } }
  have first : Reachable w := reachable_firstAccept (by decide)
  -- the listener's event, and a second descriptor accepted into slot 1
  have run : Relation.ReflTransGen (StepAway 0) w (acceptConnection
      { w with events := [], accepting := true } 6 ⟨true, .failed, true⟩) :=
    .tail (.tail (.single ⟨.wait (w := w) [.listener] rfl rfl rfl
        ⟨by decide, by simp [Event.Delivered], by decide, by decide⟩, rfl, rfl⟩)
      ⟨.listen rfl rfl, rfl, rfl⟩)
      ⟨.accept 6 _ rfl (by decide) rfl trivial, rfl, (acceptConnection_control _ 6 _).1⟩
  have free : (Function.update initConnections 0 (Connection.unused.install 5) 1).fd < 0 := by
    rw [Function.update_noteq (by decide)]; decide
  have slotOne : firstFree w.connections 0 = some 1 :=
    (firstFree_eq_some_iff _ 0 1).mpr ⟨by decide, free, fun m _ below => by
      obtain rfl : m = 0 := Fin.ext (Nat.lt_one_iff.mp (Fin.lt_def.mp below))
      simp [w]⟩
  obtain ⟨same, -, -, silent⟩ := reachable_othersInvisible first run rfl
  refine ⟨w, _, first, run, rfl, ?_, same, silent⟩
  rw [@acceptConnection_installs { w with events := [], accepting := true } 6 1 ⟨true, .failed, true⟩
    slotOne rfl rfl rfl]
  simp

/-! ### A session among other connections -/

/-- A ready slot stays ready through a run away from it that ends idle. -/
theorem Ready.away {w w' : World} (reachable : Reachable w) {i : Slot} {id : Nat}
    (ready : Ready w i id) (run : Relation.ReflTransGen (StepAway i) w w') (idle : w'.Idle) :
    Ready w' i id := by
  obtain ⟨same, untouched⟩ := reachable.untouched run ready.opened
  refine ⟨idle, ?_, ?_, ?_, ?_, ?_⟩ <;> rw [same]
  · exact ready.occupied
  · rw [untouched.fds_eq, ready.opened]
  · rw [untouched.epoll_eq, ready.reading]
  · exact ready.unanswered
  · exact ready.fresh

/-- One turn of the accept loop from an idle loop handles no client event, and ends idle. -/
theorem World.Idle.acceptAway {w : World} (idle : w.Idle) (i : Slot) {fd : Int} (valid : 0 ≤ fd)
    (fresh : w.kernel.fds fd = none) (o : AcceptOutcome) (fits : o.send.Fits response503.length) :
    Relation.ReflTransGen (StepAway i) w
        { acceptConnection { w with events := [], accepting := true } fd o with accepting := false } ∧
      World.Idle { acceptConnection { w with events := [], accepting := true } fd o with accepting := false } := by
  have control := acceptConnection_control { w with events := [], accepting := true } fd o
  have running := control.1.trans idle.running
  refine ⟨.tail (.tail (.tail (.single ⟨.wait [.listener] idle.running idle.events_eq idle.notAccepting
      ⟨by simp [maxEvents], by simp [Event.Delivered], by simp [Event.clientFd], by simp⟩,
      by simp [World.handles, idle.notAccepting, idle.events_eq], idle.running⟩)
    ⟨.listen rfl idle.notAccepting, by simp [World.handles, idle.notAccepting], idle.running⟩)
    ⟨.accept fd o rfl valid fresh fits, rfl, running⟩)
    ⟨.acceptEnd control.2, by simp [World.handles, control.2], running⟩, running, by simp, rfl⟩

/-- The `send` that takes every byte still to send leaves the slot without a response. -/
theorem sendResponse_last_response (c : Connection) (i : Slot) (k : Kernel) (ok : Bool) :
    (sendResponse c i k (.accepted (c.responseSize - c.responseSent)) ok).2.1.response = none := by
  cases pending : c.response with
  | none => simp [sendResponse, pending]
  | some r => exact (sendResponse_complete pending i k ok (by omega)).1

/-- **A completed response is on the socket whole.** In every running state the loop reaches,
take a write event on slot `i` whose `send` takes every byte still to send. Whether the
connection is then re-armed for its next request or released, and whatever `epoll_ctl`,
`EPOLLERR` and `EPOLLHUP` say, its socket holds whole responses only: nothing of a response is
dropped unsent. -/
theorem reachable_completesWhole {w : World} (reachable : Reachable w) (running : w.running = true)
    {fd : Int} {i : Slot} {mask : Mask} {rest : List Event} (next : w.events = .client fd i mask :: rest)
    (writable : mask.epollin = false ∧ mask.epollout = true) {o : Outcome}
    (last : o.send = .accepted ((w.connections i).responseSize - (w.connections i).responseSent))
    {id : Nat} (opened : w.kernel.fds fd = some id) : Whole ((handleClient w i mask o).kernel.sent id) := by
  have inv := reachable.inv running
  obtain ⟨fdEq, valid, -⟩ := inv.slot_of_delivered (inv.pending (.client fd i mask) (by simp [next]))
  subst fdEq
  have slot := inv.slots i valid
  -- one `send_response` call keeps the streams, and completes the response
  have streams := reachable.streams.sendResponse valid opened inv.accounts
    (fun j taken same => inv.injective j i taken same)
    (fun r pending => (slot.writing r pending).imp_right And.left) o.send o.ctlOk
    (by rw [last]; exact le_rfl)
  obtain ⟨s, whole, socket⟩ := streams.inFlight i id (by simp [sendResponse_fd, valid])
    (by simp [(Streams.sendResponse_frame opened o.send o.ctlOk).1, sendResponse_fd, opened])
  have sent : (handleClient w i mask o).kernel.sent =
      (sendResponse (w.connections i) i w.kernel o.send o.ctlOk).2.2.sent := by
    simp only [handleClient, writable, Bool.false_eq_true, if_false, if_true, checkErrors_sent,
      onWritable]
    split_ifs <;> simp [World.dropConnection_sent]
  have done := sendResponse_last_response (w.connections i) i w.kernel o.ctlOk
  rw [← last] at done
  rw [sent, socket, Function.update_same, Connection.onSocket_of_none done, List.append_nil]
  exact whole

/-- The first connection of a fresh loop writes its whole response in one `send`. -/
theorem firstResponse_whole : ∃ w : World, ∃ o : Outcome, Reachable w ∧
    o.send = .accepted ((w.connections 0).responseSize - (w.connections 0).responseSent) ∧
    w.kernel.fds 5 = some 0 ∧ Whole ((handleClient w 0 ⟨false, true, false, false⟩ o).kernel.sent 0) := by
  have served := reachable_firstRequest (by decide : (0 : Int) ≤ 5) (bytesOf "GET / HTTP/1.1\r\n\r\n")
    ⟨fun _ => none, true, true⟩ (by decide) (by decide) (by decide)
  have writing := Reachable.step served (.wait [.client 5 0 ⟨false, true, false, false⟩] rfl rfl rfl
    ⟨by decide, by simp [Event.Delivered], by decide, by decide⟩)
  exact ⟨_, ⟨.wouldBlock, ⟨fun _ => none, true, true⟩, .accepted (_ - _), true⟩, writing, rfl, rfl,
    reachable_completesWhole writing rfl rfl ⟨rfl, rfl⟩ rfl rfl⟩

/-! ### Admission control -/

/-- **The pool bounds the open connections.** In every state the loop reaches, running or
stopped, a set of open client descriptors has at most `MAX_CONNECTIONS` members, since each
open descriptor is an occupied slot's. -/
theorem reachable_openBounded {w : World} (reachable : Reachable w) {S : Finset Int}
    (opened : ∀ n ∈ S, (w.kernel.fds n).isSome) : S.card ≤ maxConnections := by
  rcases reachable_inv reachable with inv | stopped
  · calc S.card ≤ (Finset.univ.image fun i : Slot => (w.connections i).fd).card :=
          Finset.card_le_card fun n member => by
            obtain ⟨i, -, owner⟩ := inv.owned n (opened n member)
            exact Finset.mem_image.mpr ⟨i, Finset.mem_univ i, owner⟩
      _ ≤ (Finset.univ : Finset Slot).card := Finset.card_image_le
      _ = maxConnections := by rw [Finset.card_univ, Fintype.card_fin]
  · have empty : S = ∅ := Finset.eq_empty_of_forall_not_mem fun n member => by
      simpa [stopped.nothing_open n] using opened n member
    simp [empty]

/-- A loop whose first `MAX_CONNECTIONS` clients fill the pool: the descriptors of its slots
are open, and there are `MAX_CONNECTIONS` of them. -/
theorem fullPool_openBounded : ∃ w, Reachable w ∧ (∀ j, 0 ≤ (w.connections j).fd) ∧
    ∃ S : Finset Int, S.card = maxConnections ∧ (∀ n ∈ S, (w.kernel.fds n).isSome) ∧
      S.card ≤ maxConnections := by
  obtain ⟨w, reachable, idle, occupied, -⟩ := reachable_filled maxConnections le_rfl
  have full : ∀ j, 0 ≤ (w.connections j).fd := fun j => (occupied j).mpr j.isLt
  have inv := reachable.inv idle.running
  let S := Finset.univ.image fun j : Slot => (w.connections j).fd
  have size : S.card = maxConnections := by
    rw [Finset.card_image_of_injective _ fun i j same => inv.injective i j (full i) same,
      Finset.card_univ, Fintype.card_fin]
  have opened : ∀ n ∈ S, (w.kernel.fds n).isSome := fun n member => by
    obtain ⟨j, -, owner⟩ := Finset.mem_image.mp member
    exact owner ▸ (inv.slots j (full j)).opened
  exact ⟨w, reachable, full, S, size, opened, reachable_openBounded reachable opened⟩

end EpollWebServer
