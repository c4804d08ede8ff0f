import EpollWebServer.Invariant
import Mathlib.Logic.Relation

/-!
**The spec's edge-triggered multiplexer under the loop, and a lost wakeup.**

The spec models edge-triggered epoll like this. A read edge is queued for a descriptor
registered for `EPOLLIN` only when new bytes arrive, or when `EPOLL_CTL_ADD` or `MOD` registers
`EPOLLIN` while bytes wait unread. `epoll_wait` reports `EPOLLIN` only on a queued edge, and
consumes it. `recv` returns any non-empty part of the unread bytes, up to what it asked for, and
would-block only when none are unread. `EtWorld` adds each socket's unread bytes and queued
edge to the loop's state. `EtStep` runs the loop's steps on it, plus the arrival of bytes.

* `EtReachable.reachable`: every run under the model is a run of the loop (`Reachable`). So
  everything proved of the loop holds along it.
* `lostWakeup`: the `EPOLLIN` branch makes one `recv` per event. After a short read it returns
  to `epoll_wait` with bytes unread, interest `EPOLLIN`, and no edge queued.
* `quietRun_asleep`: such a descriptor stays so. While no new bytes arrive for it and it stays
  open, no event reports it and its bytes stay unread, whatever else the loop does.
-/

namespace EpollWebServer

/-- Whether `fd` is registered with interest `EPOLLIN`. -/
def Kernel.readRegistered (k : Kernel) (fd : Int) : Bool :=
  match k.epoll fd with
  | some ⟨.epollin, _⟩ => true
  | _ => false

theorem Kernel.readRegistered_eq_true {k : Kernel} {fd : Int} :
    k.readRegistered fd = true ↔ ∃ i, k.epoll fd = some ⟨.epollin, i⟩ := by
  unfold Kernel.readRegistered
  split <;> simp_all

theorem Kernel.readRegistered_congr {k k' : Kernel} {fd : Int} (same : k'.epoll fd = k.epoll fd) :
    k'.readRegistered fd = k.readRegistered fd := by
  unfold Kernel.readRegistered; rw [same]

/-- Modelled from the spec: each socket's received bytes that no `recv` has taken yet, and
whether a read edge waits for the next `epoll_wait`. -/
structure Sockets where
  unread : Int → List UInt8
  queued : Int → Bool

/-- The loop with the sockets under it. -/
structure EtWorld where
  world : World
  sockets : Sockets

/-- A client event on `fd` that reports `EPOLLIN`. -/
def Event.readsFd (fd : Int) : Event → Bool
  | .listener => false
  | .client n _ mask => n == fd && mask.epollin

namespace Sockets

/-- The peer's bytes arrive on `fd`: an edge is queued when `fd` is registered for `EPOLLIN`. -/
def arrive (s : Sockets) (k : Kernel) (fd : Int) (bytes : List UInt8) : Sockets :=
  ⟨Function.update s.unread fd (s.unread fd ++ bytes),
    Function.update s.queued fd (s.queued fd || k.readRegistered fd)⟩

/-- The socket behind a descriptor `accept` just returned, or one just closed: nothing waits. -/
def fresh (s : Sockets) (fd : Int) : Sockets :=
  ⟨Function.update s.unread fd [], Function.update s.queued fd false⟩

/-- `epoll_wait` consumes the edges it reports. -/
def consume (s : Sockets) (batch : List Event) : Sockets :=
  ⟨s.unread, fun fd => s.queued fd && !batch.any (Event.readsFd fd)⟩

/-- After a client event on `fd` whose `recv` took `taken` bytes, with the kernel going from `k`
to `k'`. A closed socket is gone. A registration that turns to `EPOLLIN` while bytes wait
queues an edge. -/
def settle (s : Sockets) (k k' : Kernel) (fd : Int) (taken : Nat) : Sockets :=
  if (k'.fds fd).isSome then
    ⟨Function.update s.unread fd ((s.unread fd).drop taken),
      Function.update s.queued fd (s.queued fd ||
        (!k.readRegistered fd && k'.readRegistered fd && !((s.unread fd).drop taken).isEmpty))⟩
  else s.fresh fd

/-- Settling the sockets after an event on `n` leaves every other socket alone. -/
theorem settle_ne (s : Sockets) (k k' : Kernel) {fd n : Int} (taken : Nat) (other : fd ≠ n) :
    (s.settle k k' n taken).unread fd = s.unread fd ∧ (s.settle k k' n taken).queued fd = s.queued fd := by
  unfold settle
  split <;> simp [fresh, other]

end Sockets

/-- What `recv` may return under the model with `unread` waiting: a non-empty prefix of it, 0
(the peer closed) or would-block only when nothing waits, or an error. -/
def RecvResult.Takes (unread : List UInt8) : RecvResult → Prop
  | .received bytes => (bytes = [] ∧ unread = []) ∨ (bytes ≠ [] ∧ bytes <+: unread)
  | .wouldBlock => unread = []
  | .failed => True

/-- The bytes a client event's `recv` took: none unless the `EPOLLIN` branch got past its
guard. -/
def recvTaken (c : Connection) (mask : Mask) (o : Outcome) : Nat :=
  match o.recv with
  | .received bytes => if mask.epollin && c.response.isNone then bytes.length else 0
  | _ => 0

/-- One step of the loop over the model's sockets. -/
inductive EtStep : EtWorld → EtWorld → Prop
  /-- The peer sends `bytes` on the open descriptor `fd`. -/
  | arrive {e : EtWorld} (fd : Int) (bytes : List UInt8) (nonempty : bytes ≠ [])
      (opened : (e.world.kernel.fds fd).isSome) :
      EtStep e ⟨e.world, e.sockets.arrive e.world.kernel fd bytes⟩
  /-- `epoll_wait` reports `EPOLLIN` only on a queued edge, and consumes it. -/
  | wait {e : EtWorld} (batch : List Event) (running : e.world.running = true)
      (idle : e.world.events = []) (notAccepting : e.world.accepting = false)
      (delivered : Batch e.world.kernel batch)
      (edges : ∀ fd, batch.any (Event.readsFd fd) = true → e.sockets.queued fd = true) :
      EtStep e ⟨{ e.world with events := batch }, e.sockets.consume batch⟩
  | listen {e : EtWorld} {rest : List Event} (next : e.world.events = .listener :: rest)
      (notAccepting : e.world.accepting = false) :
      EtStep e ⟨{ e.world with events := rest, accepting := true }, e.sockets⟩
  | accept {e : EtWorld} (fd : Int) (o : AcceptOutcome) (accepting : e.world.accepting = true)
      (valid : 0 ≤ fd) (fresh : e.world.kernel.fds fd = none)
      (fits : o.send.Fits response503.length) :
      EtStep e ⟨acceptConnection e.world fd o, e.sockets.fresh fd⟩
  | acceptEnd {e : EtWorld} (accepting : e.world.accepting = true) :
      EtStep e ⟨{ e.world with accepting := false }, e.sockets⟩
  /-- A client event, whose `recv` takes from the socket's unread bytes. -/
  | client {e : EtWorld} {fd : Int} {i : Slot} {mask : Mask} {rest : List Event} (o : Outcome)
      (next : e.world.events = .client fd i mask :: rest) (notAccepting : e.world.accepting = false)
      (fits : o.Fits (e.world.connections i)) (takes : o.recv.Takes (e.sockets.unread fd)) :
      EtStep e ⟨{ handleClient e.world i mask o with events := rest },
        e.sockets.settle e.world.kernel (handleClient e.world i mask o).kernel fd
          (recvTaken (e.world.connections i) mask o)⟩
  | shutdown {e : EtWorld} (running : e.world.running = true) (idle : e.world.events = [])
      (notAccepting : e.world.accepting = false) : EtStep e ⟨e.world.shutdown, e.sockets⟩

/-- The loop as it starts, with no bytes anywhere. -/
def EtWorld.initial : EtWorld := ⟨World.initial, ⟨fun _ => [], fun _ => false⟩⟩

/-- The states the loop reaches under the model. -/
inductive EtReachable : EtWorld → Prop
  | initial : EtReachable EtWorld.initial
  | step {e e' : EtWorld} : EtReachable e → EtStep e e' → EtReachable e'

/-! ### The model refines the loop -/

/-- Every step under the model is a step of the loop, or the arrival of bytes, which the loop
does not see. -/
theorem EtStep.base {e e' : EtWorld} (step : EtStep e e') :
    Step e.world e'.world ∨ e'.world = e.world := by
  cases step with
  | arrive => exact .inr rfl
  | wait batch running idle notAccepting delivered =>
    exact .inl (.wait batch running idle notAccepting delivered)
  | listen next notAccepting => exact .inl (.listen next notAccepting)
  | accept fd o accepting valid fresh fits => exact .inl (.accept fd o accepting valid fresh fits)
  | acceptEnd accepting => exact .inl (.acceptEnd accepting)
  | client o next notAccepting fits => exact .inl (.client o next notAccepting fits)
  | shutdown running idle notAccepting => exact .inl (.shutdown running idle notAccepting)

/-- Every state reached under the model is reached by the loop. -/
theorem EtReachable.reachable {e : EtWorld} (reachable : EtReachable e) : Reachable e.world := by
  induction reachable with
  | initial => exact .initial
  | step _ step ih =>
    rcases step.base with base | same
    · exact .step ih base
    · exact same ▸ ih

/-! ### A lost wakeup -/

/-- The run behind `lostWakeup`. Descriptor 5 is accepted into slot 0, and the peer sends
`GET /`. The read edge is reported, and `recv` returns the first two bytes. They complete no
request, so the handler returns to `epoll_wait` with `T /` unread and no edge queued. -/
theorem shortRead_reachable :
    ∃ e, EtReachable e ∧ e.world.running = true ∧ e.world.events = [] ∧
      e.world.accepting = false ∧ (e.world.connections 0).fd = 5 ∧
      (e.world.kernel.fds 5).isSome ∧ e.world.kernel.epoll 5 = some ⟨.epollin, 0⟩ ∧
      e.sockets.unread 5 = bytesOf "T /" ∧ e.sockets.queued 5 = false := by
  let reading : Mask := ⟨true, false, false, false⟩
  -- the listener's event, and descriptor 5 accepted into slot 0
  have listening : EtReachable ⟨{ World.initial with events := [], accepting := true },
      ⟨fun _ => [], fun _ => false⟩⟩ :=
    .step (.step .initial (.wait [.listener] rfl rfl rfl
      ⟨by decide, by simp [Event.Delivered], by decide, by decide⟩ (by simp [Event.readsFd])))
      (.listen rfl rfl)
  have accepted := EtReachable.step listening
    (EtStep.accept 5 ⟨true, .failed, true⟩ rfl (by decide) rfl trivial)
  rw [acceptConnection_installs _ (firstFree_of_free_zero (by decide)) rfl rfl rfl] at accepted
  -- the peer sends five bytes; the edge is reported
  have arrived := EtReachable.step (EtReachable.step accepted (.acceptEnd rfl))
    (.arrive 5 (bytesOf "GET /") (by decide) (by simp))
  have reported := EtReachable.step arrived (.wait [.client 5 0 reading] rfl rfl rfl
    ⟨by decide, by simp [Event.Delivered, reading, Function.update_apply], by decide, by decide⟩
    (by simp [Event.readsFd, Sockets.arrive, Kernel.readRegistered]))
  -- `recv` returns two of them
  let o : Outcome := ⟨.received (bytesOf "GE"), ⟨fun _ => none, true, true⟩, .failed, true⟩
  have short := EtReachable.step reported (EtStep.client o rfl rfl
    ⟨by simp [RecvResult.Fits, World.initial, initConnections, Connection.install]; decide,
      trivial⟩
    (.inr ⟨by decide, by simp [Sockets.consume, Sockets.arrive]; decide⟩))
  rw [handleClient_keepsReading _ (by simp [World.initial, initConnections, Connection.install,
    Connection.unused]) rfl (by decide) (by simp [World.initial, initConnections]; decide)
    (by simp [World.initial, initConnections, Connection.install, bufferSize]; decide)] at short
  refine ⟨_, short, rfl, rfl, rfl, by simp [World.initial, initConnections], by simp [Kernel.initial],
    by simp [World.initial, initConnections, Function.update_apply], ?_, ?_⟩
  · simp [Sockets.settle, Sockets.consume, Sockets.arrive, recvTaken, Kernel.initial, o]
    decide
  · simp [Sockets.settle, Sockets.consume, Sockets.arrive, Kernel.readRegistered, Event.readsFd,
      Kernel.initial, Function.update_apply]

/-- **A short read loses the wakeup.** After the run of `shortRead_reachable`, the connection
in slot 0 is registered for `EPOLLIN` and three bytes wait unread, and no edge and no event is
pending for them. -/
theorem lostWakeup :
    ∃ e, EtReachable e ∧ e.world.running = true ∧ e.world.events = [] ∧
      e.world.accepting = false ∧ 0 ≤ (e.world.connections 0).fd ∧
      e.world.kernel.epoll (e.world.connections 0).fd = some ⟨.epollin, 0⟩ ∧
      e.sockets.unread (e.world.connections 0).fd ≠ [] ∧
      e.sockets.queued (e.world.connections 0).fd = false := by
  obtain ⟨e, reachable, running, idle, notAccepting, fd, -, registered, unread, unqueued⟩ :=
    shortRead_reachable
  refine ⟨e, reachable, running, idle, notAccepting, ?_, ?_, ?_, ?_⟩ <;> rw [fd]
  exacts [by decide, registered, by rw [unread]; decide, unqueued]

/-! ### The wakeup stays lost -/

/-- Descriptor `fd` is registered for `EPOLLIN`, and no read edge for it is queued or pending:
nothing will report what it has unread. -/
structure Asleep (fd : Int) (e : EtWorld) : Prop where
  registered : e.world.kernel.readRegistered fd = true
  unqueued : e.sockets.queued fd = false
  unreported : ∀ ev ∈ e.world.events, ev.readsFd fd = false

/-- A step after which `fd` is still open and has received nothing new: what it has unread is
what it had, or a suffix of it. -/
def QuietOn (fd : Int) (e e' : EtWorld) : Prop :=
  EtStep e e' ∧ e'.sockets.unread fd <:+ e.sockets.unread fd ∧ (e'.world.kernel.fds fd).isSome

/-- A state the loop steps from has the invariant. -/
theorem Reachable.inv_of_step {w w' : World} (reachable : Reachable w) (step : Step w w') : Inv w :=
  (reachable_inv reachable).resolve_right fun stopped => stopped.final step

theorem EtReachable.of_quietRun {fd : Int} {e e' : EtWorld} (reachable : EtReachable e)
    (run : Relation.ReflTransGen (QuietOn fd) e e') : EtReachable e' := by
  induction run with
  | refl => exact reachable
  | tail _ quiet ih => exact .step ih quiet.1

/-- One quiet step keeps `fd` asleep, with its unread bytes as they were. A read event on `fd`
needs a queued edge, and none is. An event without `EPOLLIN` on `fd` can only release it, and
`fd` stays open. An event on another descriptor touches neither `fd`'s registration nor its
socket. -/
theorem Asleep.step {fd : Int} {e e' : EtWorld} (reachable : EtReachable e) (asleep : Asleep fd e)
    (quiet : QuietOn fd e e') : Asleep fd e' ∧ e'.sockets.unread fd = e.sockets.unread fd := by
  obtain ⟨step, suffix, opened⟩ := quiet
  have inv : ∀ {w'}, Step e.world w' → Inv e.world := reachable.reachable.inv_of_step
  cases step with
  | arrive n bytes nonempty _ =>
    by_cases same : n = fd
    · subst same
      have longer := suffix.length_le
      simp only [Sockets.arrive, Function.update_same, List.length_append] at longer
      exact absurd (List.length_eq_zero.mp (by omega)) nonempty
    · exact ⟨⟨asleep.registered, by simp [Sockets.arrive, Ne.symm same, asleep.unqueued],
        asleep.unreported⟩, by simp [Sockets.arrive, Ne.symm same]⟩
  | wait batch _ _ _ _ edges =>
    refine ⟨⟨asleep.registered, by simp [Sockets.consume, asleep.unqueued], fun ev member => ?_⟩, rfl⟩
    by_contra reads
    have queued := edges fd (List.any_eq_true.mpr ⟨ev, member, by simpa using reads⟩)
    simp [asleep.unqueued] at queued
  | listen next _ =>
    exact ⟨⟨asleep.registered, asleep.unqueued,
      fun ev member => asleep.unreported ev (by simp [next, member])⟩, rfl⟩
  | accept n o accepting valid fresh fits =>
    obtain ⟨i, registered⟩ := Kernel.readRegistered_eq_true.mp asleep.registered
    have isOpen := ((inv (.accept n o accepting valid fresh fits)).registrations fd _ registered).1
    have other : fd ≠ n := fun same => by simp [same, fresh] at isOpen
    refine ⟨⟨?_, by simp [Sockets.fresh, other, asleep.unqueued], by simpa using asleep.unreported⟩,
      by simp [Sockets.fresh, other]⟩
    rw [Kernel.readRegistered_congr (acceptConnection_epoll_ne _ _ other)]
    exact asleep.registered
  | acceptEnd => exact ⟨⟨asleep.registered, asleep.unqueued, asleep.unreported⟩, rfl⟩
  | @client n j mask rest o next notAccepting fits takes =>
    have inv := inv (.client o next notAccepting fits)
    have delivered := inv.pending (.client n j mask) (by simp [next])
    obtain ⟨fdEq, valid, r, registeredR, -, -, output⟩ := inv.slot_of_delivered delivered
    have unreported : ∀ ev ∈ rest, ev.readsFd fd = false :=
      fun ev member => asleep.unreported ev (by simp [next, member])
    by_cases same : n = fd
    · subst same
      -- the event reports neither `EPOLLIN` nor, on a read registration, `EPOLLOUT`
      have notIn : mask.epollin = false := by
        simpa [Event.readsFd] using asleep.unreported (.client n j mask) (by simp [next])
      obtain ⟨p, registered⟩ := Kernel.readRegistered_eq_true.mp asleep.registered
      have notOut : mask.epollout = false := by
        cases out : mask.epollout
        · rfl
        · have reads := output out
          rw [registeredR, Option.some.injEq] at registered
          simp [registered] at reads
      have handled : handleClient e.world j mask o = checkErrors e.world j mask := by
        simp [handleClient, notIn, notOut]
      have nothingTaken : recvTaken (e.world.connections j) mask o = 0 := by
        unfold recvTaken; split <;> simp [notIn]
      rw [handled, nothingTaken] at opened ⊢
      -- so it can only release the connection, which would close `n`
      by_cases hung : (mask.epollerr || mask.epollhup) = true
      · have closed : (checkErrors e.world j mask).kernel.fds n = none := by
          simp [checkErrors, hung, World.dropConnection, removeConnection_snd_of_occupied (fdEq ▸ valid),
            Kernel.close_fds, fdEq]
        simp [closed] at opened
      · have isOpen := (inv.registrations n _ registered).1
        simp only [checkErrors, hung, if_false] at opened ⊢
        exact ⟨⟨asleep.registered, by simp [Sockets.settle, isOpen, asleep.unqueued, asleep.registered],
          unreported⟩, by simp [Sockets.settle, isOpen]⟩
    · have frame := (handleClient_effect inv delivered fits).frame
        (by rw [fdEq]; exact (inv.registrations n r registeredR).1) fd (by rw [fdEq]; exact Ne.symm same)
      obtain ⟨unread, queued⟩ := Sockets.settle_ne e.sockets e.world.kernel
        (handleClient e.world j mask o).kernel (recvTaken (e.world.connections j) mask o) (Ne.symm same)
      refine ⟨⟨?_, by rw [queued]; exact asleep.unqueued, unreported⟩, unread⟩
      rw [Kernel.readRegistered_congr frame.2]
      exact asleep.registered
  | shutdown running idle notAccepting =>
    have stopped := (reachable.reachable.inv_of_step (.shutdown running idle notAccepting)).shutdown
      idle notAccepting
    have world : (EtWorld.mk e.world.shutdown e.sockets).world = e.world.shutdown := rfl
    rw [world, stopped.nothing_open fd] at opened
    cases opened

/-- **The lost wakeup is never made up for.** From a reachable state in which `fd` is
registered for `EPOLLIN` with no read edge queued or pending, take any run in which no new
bytes arrive for `fd` and `fd` stays open. The other connections may do anything meanwhile.
Along the run, `fd` stays asleep: no event that reports `EPOLLIN` on it is ever pending, so
the handler never reads it, and the bytes it had unread stay unread. -/
theorem quietRun_asleep {fd : Int} {e e' : EtWorld} (reachable : EtReachable e) (asleep : Asleep fd e)
    (run : Relation.ReflTransGen (QuietOn fd) e e') :
    Asleep fd e' ∧ e'.sockets.unread fd = e.sockets.unread fd := by
  induction run with
  | refl => exact ⟨asleep, rfl⟩
  | tail run quiet ih =>
    obtain ⟨asleep', same⟩ := ih
    obtain ⟨asleep'', same'⟩ := asleep'.step (reachable.of_quietRun run) quiet
    exact ⟨asleep'', same'.trans same⟩

/-- After the short read, the listener's event comes and the accept loop starts: descriptor 5
stays asleep with `T /` unread. -/
theorem shortRead_stays_asleep :
    ∃ e e', EtReachable e ∧ Asleep 5 e ∧ Relation.ReflTransGen (QuietOn 5) e e' ∧
      e'.world.accepting = true ∧ Asleep 5 e' ∧ e'.sockets.unread 5 = bytesOf "T /" := by
  obtain ⟨e, reachable, running, idle, notAccepting, -, isOpen, registered, unread, unqueued⟩ :=
    shortRead_reachable
  have asleep : Asleep 5 e := ⟨by simp [Kernel.readRegistered, registered], unqueued, by simp [idle]⟩
  let listening : EtWorld := ⟨{ e.world with events := [.listener] }, e.sockets.consume [.listener]⟩
  have woken : QuietOn 5 e listening :=
    ⟨.wait [.listener] running idle notAccepting ⟨by decide, by simp [Event.Delivered], by decide,
      by decide⟩ (by simp [Event.readsFd]), List.suffix_refl _, isOpen⟩
  have accepting : QuietOn 5 listening ⟨{ listening.world with events := [], accepting := true },
      listening.sockets⟩ := ⟨.listen rfl notAccepting, List.suffix_refl _, isOpen⟩
  have run := Relation.ReflTransGen.single woken |>.tail accepting
  obtain ⟨after, same⟩ := quietRun_asleep reachable asleep run
  exact ⟨e, _, reachable, asleep, run, rfl, after, same.trans unread⟩

end EpollWebServer
