import EpollWebServer.EdgeTriggered
import EpollWebServer.Safety

/-!
**Draining reads keep every wakeup.**

The spec's edge-triggered contract asks whoever consumes a read edge to read until `recv` would
block. The `EPOLLIN` branch makes one `recv` per event, and after a short read a wakeup is lost
(`lostWakeup`). This module shows that the short read is the only way to lose one. Take the runs
under the spec's model in which every `recv` takes every unread byte it has room for
(`DrainStep`). In every state they reach, no wakeup is lost (`Awake`): every open descriptor
registered for `EPOLLIN` with bytes unread has a read edge queued or a read event pending.

* `handleClient_drained`: a read event whose `recv` drains the socket takes every unread byte,
  or fills the buffer. Then the request is parsed or rejected, and the descriptor leaves
  `EPOLLIN` (`handleClient_fills`) or is closed.
* `Awake.client`: one client event keeps `Awake`. A write event that switches back to `EPOLLIN`
  with bytes waiting queues an edge itself, and other descriptors keep their edges and events.
* `drained_awake`: every run of draining steps keeps `Awake`, by induction over the run.
-/

namespace EpollWebServer

/-! ### Draining runs -/

/-- A `recv` that takes every unread byte it has room for: `len` of them, or all of `unread`. -/
def RecvResult.Drains (unread : List UInt8) (len : Nat) : RecvResult → Prop
  | .received bytes => bytes = unread.take len
  | _ => True

/-- A step under the spec's model in which a client event's `recv` drains its socket. -/
inductive DrainStep : EtWorld → EtWorld → Prop
  /-- A step that handles no client event: when one is next, the batch stays as it was. -/
  | other {e e' : EtWorld} (step : EtStep e e')
      (unhandled : ∀ fd i mask rest, e.world.accepting = false →
        e.world.events = .client fd i mask :: rest → e'.world.events = e.world.events) :
      DrainStep e e'
  /-- A client event whose `recv` takes every unread byte it has room for. -/
  | client {e : EtWorld} {fd : Int} {i : Slot} {mask : Mask} {rest : List Event} (o : Outcome)
      (next : e.world.events = .client fd i mask :: rest) (notAccepting : e.world.accepting = false)
      (fits : o.Fits (e.world.connections i)) (takes : o.recv.Takes (e.sockets.unread fd))
      (drains : o.recv.Drains (e.sockets.unread fd) (bufferSize - (e.world.connections i).bufferUsed - 1)) :
      DrainStep e ⟨{ handleClient e.world i mask o with events := rest },
        e.sockets.settle e.world.kernel (handleClient e.world i mask o).kernel fd
          (recvTaken (e.world.connections i) mask o)⟩

/-- A step taken while no client event is next. -/
theorem DrainStep.quiet {e e' : EtWorld} (step : EtStep e e')
    (noClient : ∀ fd i mask rest, e.world.events ≠ .client fd i mask :: rest) : DrainStep e e' :=
  .other step fun fd i mask rest _ next => absurd next (noClient fd i mask rest)

/-- A step taken inside the accept loop. -/
theorem DrainStep.accepting {e e' : EtWorld} (step : EtStep e e') (accepting : e.world.accepting = true) :
    DrainStep e e' :=
  .other step fun _ _ _ _ notAccepting _ => by simp [accepting] at notAccepting

theorem DrainStep.etStep {e e' : EtWorld} : DrainStep e e' → EtStep e e'
  | .other step _ => step
  | .client o next notAccepting fits takes _ => .client o next notAccepting fits takes

/-- No wakeup is lost: every open descriptor registered for `EPOLLIN` with bytes unread has a
read edge queued or a read event pending. -/
def Awake (e : EtWorld) : Prop :=
  ∀ fd, (e.world.kernel.fds fd).isSome → e.world.kernel.readRegistered fd = true →
    e.sockets.unread fd ≠ [] → e.sockets.queued fd = true ∨ ∃ ev ∈ e.world.events, ev.readsFd fd = true

/-! ### What the handler does to a drained socket -/

theorem Sockets.settle_of_open (s : Sockets) {k k' : Kernel} {fd : Int} (taken : Nat)
    (opened : (k'.fds fd).isSome) :
    (s.settle k k' fd taken).unread fd = (s.unread fd).drop taken ∧
      (s.settle k k' fd taken).queued fd = (s.queued fd ||
        (!k.readRegistered fd && k'.readRegistered fd && !((s.unread fd).drop taken).isEmpty)) := by
  simp [Sockets.settle, opened]

/-- A released slot's descriptor is closed. -/
theorem World.dropConnection_closes {w : World} {i : Slot} (occupied : 0 ≤ (w.connections i).fd) :
    (w.dropConnection i).kernel.fds (w.connections i).fd = none := by
  simp [World.dropConnection, removeConnection_snd_of_occupied occupied, Kernel.close_fds]

/-- A read event whose bytes fill the buffer ends with the request parsed or rejected: the
descriptor leaves `EPOLLIN`, or is closed. -/
theorem handleClient_fills {w : World} {i : Slot} {mask : Mask} {o : Outcome}
    (readable : mask.epollin = true) (idle : (w.connections i).response = none)
    (occupied : 0 ≤ (w.connections i).fd) {bytes : List UInt8} (received : o.recv = .received bytes)
    (nonempty : bytes ≠ []) (full : bufferSize - 1 ≤ (w.connections i).bufferUsed + bytes.length) :
    (handleClient w i mask o).kernel.fds (w.connections i).fd = none ∨
      (handleClient w i mask o).kernel.readRegistered (w.connections i).fd = false := by
  -- both branches store a reply and switch to write mode
  obtain ⟨c, sameFd, switched⟩ : ∃ c : Connection, c.fd = (w.connections i).fd ∧
      onReadable w i o = w.changeToWriteMode i c o.ctlOk := by
    simp only [onReadable, idle, received, nonempty, Option.isSome_none, Bool.false_eq_true,
      if_false, Connection.receive_bufferUsed]
    split_ifs
    exacts [⟨_, by simp, rfl⟩, ⟨_, by simp, rfl⟩]
  have stored : ∀ k, ({ w.setConnection i c with kernel := k } : World).connections i = c := by
    simp
  unfold handleClient
  rw [if_pos readable, switched]
  cases modified : w.kernel.epollMod c.fd ⟨.epollout, i⟩ o.ctlOk with
  | none =>
    simp only [World.changeToWriteMode, modified, Bool.false_eq_true, if_false]
    left
    simpa [sameFd] using World.dropConnection_closes (w := w.setConnection i c) (i := i)
      (by simpa [sameFd])
  | some k =>
    obtain ⟨-, rfl⟩ := Kernel.epollMod_eq_some modified
    simp only [World.changeToWriteMode, modified, if_true]
    unfold checkErrors
    split_ifs
    · left
      simpa [stored, sameFd] using World.dropConnection_closes (i := i)
        (w := { w.setConnection i c with kernel := _ }) (by rw [stored, sameFd]; exact occupied)
    · right
      rw [← sameFd]
      simp [Kernel.readRegistered]

/-- A read event whose `recv` drains the socket closes the descriptor, takes it off `EPOLLIN`, or
takes every byte it had unread. -/
theorem handleClient_drained {w : World} (inv : Inv w) {fd : Int} {i : Slot} {mask : Mask}
    (delivered : (Event.client fd i mask).Delivered w.kernel) (readable : mask.epollin = true)
    {o : Outcome} {unread : List UInt8} (takes : o.recv.Takes unread)
    (drains : o.recv.Drains unread (bufferSize - (w.connections i).bufferUsed - 1)) :
    (handleClient w i mask o).kernel.fds fd = none ∨
      (handleClient w i mask o).kernel.readRegistered fd = false ∨
      unread.drop (recvTaken (w.connections i) mask o) = [] := by
  obtain ⟨fdEq, valid, r, registered, ptr, input, -⟩ := inv.slot_of_delivered delivered
  subst fdEq
  obtain ⟨idle, room⟩ := (inv.slots i valid).reading (by rw [registered, ← ptr, ← input readable])
  cases received : o.recv with
  | wouldBlock =>
    simp only [received, RecvResult.Takes] at takes
    simp [takes]
  | failed =>
    left
    simpa [handleClient, readable, onReadable, idle, received] using World.dropConnection_closes valid
  | received bytes =>
    simp only [received, RecvResult.Drains] at drains
    have taken : recvTaken (w.connections i) mask o = bytes.length := by
      simp [recvTaken, received, readable, idle]
    by_cases all : unread.length ≤ bufferSize - (w.connections i).bufferUsed - 1
    · right; right
      rw [taken, drains, List.take_of_length_le all, List.drop_length]
    · -- the bytes fill the buffer
      have length : bytes.length = bufferSize - (w.connections i).bufferUsed - 1 := by
        rw [drains, List.length_take]; omega
      have nonempty : bytes ≠ [] := fun none => by simp [none] at length; omega
      exact (handleClient_fills readable idle valid received nonempty (by omega)).imp_right .inl

/-! ### One step keeps every wakeup -/

/-- In a batch with one event per descriptor, the head is the only event on its descriptor. -/
theorem readsFd_head {fd : Int} {i : Slot} {mask : Mask} {rest : List Event}
    (nodup : ((Event.client fd i mask :: rest).filterMap Event.clientFd).Nodup) {ev : Event}
    (member : ev ∈ Event.client fd i mask :: rest) (reads : ev.readsFd fd = true) :
    ev = .client fd i mask := by
  rcases List.mem_cons.mp member with rfl | later
  · rfl
  · cases ev with
    | listener => simp [Event.readsFd] at reads
    | client n j m =>
      obtain ⟨rfl, -⟩ : n = fd ∧ m.epollin = true := by simpa [Event.readsFd] using reads
      exact ((List.nodup_cons.mp nodup).1 (List.mem_filterMap.mpr ⟨_, later, rfl⟩)).elim

namespace Awake

variable {e : EtWorld}

theorem initial : Awake EtWorld.initial := fun fd opened => by
  simp [EtWorld.initial, World.initial, Kernel.initial] at opened

/-- Arriving bytes queue an edge on a descriptor registered for `EPOLLIN`. -/
theorem arrive (awake : Awake e) (fd : Int) (bytes : List UInt8) :
    Awake ⟨e.world, e.sockets.arrive e.world.kernel fd bytes⟩ := by
  intro n opened reading waiting
  by_cases here : n = fd
  · subst here
    left
    simp [Sockets.arrive, reading]
  · simp only [Sockets.arrive, Function.update_noteq here] at waiting ⊢
    exact awake n opened reading waiting

/-- `epoll_wait` turns each edge it consumes into a pending event. -/
theorem wait (awake : Awake e) (idle : e.world.events = []) (batch : List Event) :
    Awake ⟨{ e.world with events := batch }, e.sockets.consume batch⟩ := by
  intro n opened reading waiting
  have queued := (awake n opened reading waiting).resolve_right (by simp [idle])
  by_cases reported : batch.any (Event.readsFd n) = true
  · right
    simpa using reported
  · left
    simp [Sockets.consume, queued, reported]

theorem listen (awake : Awake e) {rest : List Event} (next : e.world.events = .listener :: rest) :
    Awake ⟨{ e.world with events := rest, accepting := true }, e.sockets⟩ := by
  intro n opened reading waiting
  refine (awake n opened reading waiting).imp id fun ⟨ev, member, reads⟩ => ⟨ev, ?_, reads⟩
  rw [next] at member
  rcases List.mem_cons.mp member with rfl | later
  · simp [Event.readsFd] at reads
  · exact later

theorem accept (awake : Awake e) (fd : Int) (o : AcceptOutcome) :
    Awake ⟨acceptConnection e.world fd o, e.sockets.fresh fd⟩ := by
  intro n opened reading waiting
  by_cases here : n = fd
  · subst here
    simp [Sockets.fresh] at waiting
  · simp only [Sockets.fresh, Function.update_noteq here, acceptConnection_events] at waiting ⊢
    rw [acceptConnection_fds_ne _ _ here] at opened
    rw [Kernel.readRegistered_congr (acceptConnection_epoll_ne _ _ here)] at reading
    exact awake n opened reading waiting

/-- A client event keeps `Awake` when its `recv` drains the socket. -/
theorem client (inv : Inv e.world) (awake : Awake e) {fd : Int} {i : Slot} {mask : Mask}
    {rest : List Event} {o : Outcome} (next : e.world.events = .client fd i mask :: rest)
    (fits : o.Fits (e.world.connections i)) (takes : o.recv.Takes (e.sockets.unread fd))
    (drains : o.recv.Drains (e.sockets.unread fd) (bufferSize - (e.world.connections i).bufferUsed - 1)) :
    Awake ⟨{ handleClient e.world i mask o with events := rest },
      e.sockets.settle e.world.kernel (handleClient e.world i mask o).kernel fd
        (recvTaken (e.world.connections i) mask o)⟩ := by
  have delivered := inv.pending (.client fd i mask) (by simp [next])
  obtain ⟨fdEq, -, r, registered, -⟩ := inv.slot_of_delivered delivered
  have isOpen := (inv.registrations fd r registered).1
  intro n opened reading waiting
  simp only at opened reading waiting ⊢
  by_cases here : n = fd
  · subst here
    obtain ⟨unread, queued⟩ := Sockets.settle_of_open e.sockets (k := e.world.kernel)
      (recvTaken (e.world.connections i) mask o) opened
    rw [unread] at waiting
    rw [queued]
    left
    by_cases wasQueued : e.sockets.queued n = true
    · simp [wasQueued]
    by_cases wasReading : e.world.kernel.readRegistered n = true
    · -- the event itself was the pending read event, and its `recv` drained the socket
      exfalso
      obtain ⟨ev, member, reads⟩ := (awake n isOpen wasReading fun none => waiting (by simp [none]))
        |>.resolve_left wasQueued
      have nodup := inv.pending_nodup
      rw [next] at nodup member
      have readable : mask.epollin = true := by
        simpa [readsFd_head nodup member reads, Event.readsFd] using reads
      rcases handleClient_drained inv delivered readable takes drains with closed | off | drained
      · simp [closed] at opened
      · simp [off] at reading
      · exact waiting drained
    · -- a switch back to `EPOLLIN` with bytes waiting queues an edge
      simp [wasReading, reading, waiting]
  · obtain ⟨unread, queued⟩ := Sockets.settle_ne e.sockets e.world.kernel
      (handleClient e.world i mask o).kernel (recvTaken (e.world.connections i) mask o) here
    have frame := (handleClient_effect inv delivered fits).frame (by rw [fdEq]; exact isOpen) n
      (by rw [fdEq]; exact here)
    rw [frame.1] at opened
    rw [Kernel.readRegistered_congr frame.2] at reading
    rw [unread] at waiting
    rw [queued]
    refine (awake n opened reading waiting).imp id fun ⟨ev, member, reads⟩ => ⟨ev, ?_, reads⟩
    rw [next] at member
    rcases List.mem_cons.mp member with rfl | later
    · simp [Event.readsFd, Ne.symm here] at reads
    · exact later

end Awake

/-- One draining step keeps `Awake`. -/
theorem DrainStep.awake {e e' : EtWorld} (reachable : EtReachable e) (awake : Awake e)
    (step : DrainStep e e') : Awake e' := by
  have inv : ∀ {w'}, Step e.world w' → Inv e.world := reachable.reachable.inv_of_step
  cases step with
  | client o next notAccepting fits takes drains =>
    exact awake.client (inv (.client o next notAccepting fits)) next fits takes drains
  | other step unhandled =>
    cases step with
    | arrive fd bytes => exact awake.arrive fd bytes
    | wait batch _ idle => exact awake.wait idle batch
    | listen next => exact awake.listen next
    | accept fd o => exact awake.accept fd o
    | acceptEnd => exact awake
    | @client fd i mask rest o next notAccepting =>
      have same : rest = .client fd i mask :: rest := (unhandled fd i mask rest notAccepting next).trans next
      exact absurd same (List.cons_ne_self _ _).symm
    | shutdown running idle notAccepting =>
      intro n opened
      have stopped := (inv (.shutdown running idle notAccepting)).shutdown idle notAccepting
      have world : (EtWorld.mk e.world.shutdown e.sockets).world = e.world.shutdown := rfl
      rw [world, stopped.nothing_open n] at opened
      cases opened

/-- **Draining reads lose no wakeup.** Under the spec's edge-triggered model, take any run of the
loop in which every `recv` takes every unread byte it has room for, whatever else the clients,
the kernel and the collaborators do. In every state it reaches, every open descriptor registered
for `EPOLLIN` with bytes unread has a read edge queued or a read event pending. So the lost
wakeup of `lostWakeup` comes from the short read alone. -/
theorem drained_awake {e : EtWorld} (run : Relation.ReflTransGen DrainStep EtWorld.initial e) :
    Awake e := by
  suffices both : EtReachable e ∧ Awake e from both.2
  induction run with
  | refl => exact ⟨.initial, .initial⟩
  | tail _ step ih => exact ⟨ih.1.step step.etStep, step.awake ih.1 ih.2⟩

/-- A fresh loop accepts descriptor 5, and the peer sends `GET /`: its read edge is queued. -/
theorem arrived_awake : ∃ e, Relation.ReflTransGen DrainStep EtWorld.initial e ∧
    e.sockets.unread 5 = bytesOf "GET /" ∧ e.sockets.queued 5 = true ∧ Awake e := by
  -- the listener's event, and descriptor 5 accepted into slot 0
  have listening : Relation.ReflTransGen DrainStep EtWorld.initial
      ⟨{ World.initial with events := [], accepting := true }, ⟨fun _ => [], fun _ => false⟩⟩ :=
    .tail (.single (.quiet (.wait [.listener] rfl rfl rfl
        ⟨by decide, by simp [Event.Delivered], by decide, by decide⟩ (by simp [Event.readsFd]))
        fun _ _ _ _ next => by cases next))
      (.quiet (.listen rfl rfl) fun _ _ _ _ next => by cases next)
  have accepted := listening.tail
    (.accepting (EtStep.accept 5 ⟨true, .failed, true⟩ rfl (by decide) rfl trivial) rfl)
  rw [acceptConnection_installs _ (firstFree_of_free_zero (by decide)) rfl rfl rfl] at accepted
  -- the peer sends five bytes
  have arrived := (accepted.tail (.accepting (.acceptEnd rfl) rfl)).tail
    (.quiet (.arrive 5 (bytesOf "GET /") (by decide) (by simp)) fun _ _ _ _ next => by cases next)
  exact ⟨_, arrived, by simp [Sockets.arrive, Sockets.fresh],
    by simp [Sockets.arrive, Kernel.readRegistered], drained_awake arrived⟩

end EpollWebServer
