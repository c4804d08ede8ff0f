import EpollWebServer.Loop

/-!
**The invariant of the event loop, and why every step keeps it.**

`Inv` collects what holds between any two steps of a running loop.

* Every slot's buffer: `buffer_used ≤ BUFFER_SIZE - 1`, and `buffer[BUFFER_SIZE - 1] = 0`
  (`BufferOk`).
* A free slot: `fd = -1`, no response, both counters 0 (`FreeOk`).
* An occupied slot: its descriptor is open and registered with the slot as `data.ptr`. A
  response implies `response_sent ≤ response_size` and interest `EPOLLOUT`. Interest `EPOLLIN`
  implies no response and `buffer_used < BUFFER_SIZE - 1` (`SlotOk`).
* Occupied slots hold distinct descriptors. Every open client descriptor and every
  registration belongs to an occupied slot.
* The ghost accounting (`Accounts`): every connection closed at most once, and exactly once
  when it is no longer open; no `close` of a descriptor that is not open.
* Every event still to be handled is one the kernel could deliver now, at most one per
  registration.

A client event changes only its own slot. It either keeps the connection, with the kernel
touched only at its descriptor's registration (`Touched`), or drops it, closing the
descriptor once (`ClientEffect`). Every branch of the handler has such an effect
(`onReadable_effect`, `onWritable_effect`, `ClientEffect.drop`).

* `Inv.step`: every step of a running loop keeps `Inv`.
* `reachable_inv`: every reachable state is a running one with `Inv`, or a stopped one in which
  every connection ever accepted was closed exactly once.
-/

namespace EpollWebServer

/-! ### The parts of the invariant -/

/-- The buffer facts every slot keeps. -/
structure BufferOk (c : Connection) : Prop where
  used_le : c.bufferUsed ≤ bufferSize - 1
  last_nul : c.buffer[bufferSize - 1]? = some 0

/-- A free slot, as `remove_connection` and `init_connections` leave it. -/
structure FreeOk (c : Connection) : Prop where
  fd_eq : c.fd = -1
  response_eq : c.response = none
  size_eq : c.responseSize = 0
  sent_eq : c.responseSent = 0

/-- `remove_connection` leaves a free slot. -/
theorem FreeOk.release (c : Connection) : FreeOk c.release := ⟨rfl, rfl, rfl, rfl⟩

/-- An occupied slot `i` holding `c`, against the kernel. -/
structure SlotOk (k : Kernel) (i : Slot) (c : Connection) : Prop where
  opened : (k.fds c.fd).isSome
  registered : ∃ ev, k.epoll c.fd = some ⟨ev, i⟩
  writing : ∀ r, c.response = some r →
    r.length = c.responseSize ∧ c.responseSent ≤ c.responseSize ∧
      k.epoll c.fd = some ⟨.epollout, i⟩
  reading : k.epoll c.fd = some ⟨.epollin, i⟩ → c.response = none ∧ c.bufferUsed < bufferSize - 1

/-- The ghost accounting of the kernel: connection numbers are given out in order, an open
descriptor's connection is open under that descriptor only, a connection is closed once when it
is no longer open and never before, and no `close` ever missed. -/
structure Accounts (k : Kernel) : Prop where
  id_lt : ∀ n id, k.fds n = some id → id < k.accepted
  id_injective : ∀ n m id, k.fds n = some id → k.fds m = some id → n = m
  closed_once : ∀ id, id < k.accepted → (¬ ∃ n, k.fds n = some id) → k.closes id = 1
  open_unclosed : ∀ n id, k.fds n = some id → k.closes id = 0
  future_unclosed : ∀ id, k.accepted ≤ id → k.closes id = 0
  stray_eq : k.stray = 0

/-- The invariant of the running loop. -/
structure Inv (w : World) : Prop where
  buffers : ∀ i, BufferOk (w.connections i)
  free : ∀ i, (w.connections i).fd < 0 → FreeOk (w.connections i)
  slots : ∀ i, 0 ≤ (w.connections i).fd → SlotOk w.kernel i (w.connections i)
  injective : ∀ i j, 0 ≤ (w.connections i).fd →
    (w.connections i).fd = (w.connections j).fd → i = j
  owned : ∀ n, (w.kernel.fds n).isSome → ∃ i, 0 ≤ (w.connections i).fd ∧ (w.connections i).fd = n
  registrations : ∀ n r, w.kernel.epoll n = some r →
    (w.kernel.fds n).isSome ∧ (w.connections r.ptr).fd = n
  accounts : Accounts w.kernel
  pending : ∀ e ∈ w.events, e.Delivered w.kernel
  pending_nodup : (w.events.filterMap Event.clientFd).Nodup

/-- The state after shutdown: nothing open, every connection ever accepted closed exactly once,
no stray `close`. -/
structure Stopped (w : World) : Prop where
  halted : w.running = false
  idle : w.events = [] ∧ w.accepting = false
  nothing_open : ∀ n, w.kernel.fds n = none
  closed_once : ∀ id, w.kernel.closes id = if id < w.kernel.accepted then 1 else 0
  stray_eq : w.kernel.stray = 0

/-! ### The ghost accounting -/

namespace Accounts

variable {k : Kernel} {fd : Int}

/-- The accounting reads only the open descriptors, the counters and the `close` tallies. -/
theorem congr {k' : Kernel} (ok : Accounts k) (fdsEq : k'.fds = k.fds) (acceptedEq : k'.accepted = k.accepted)
    (closesEq : k'.closes = k.closes) (strayEq : k'.stray = k.stray) : Accounts k' := by
  obtain ⟨id_lt, id_injective, closed_once, open_unclosed, future_unclosed, stray_eq⟩ := ok
  rw [← fdsEq, ← acceptedEq] at *
  rw [← closesEq] at closed_once open_unclosed future_unclosed
  exact ⟨id_lt, id_injective, closed_once, open_unclosed, future_unclosed, strayEq ▸ stray_eq⟩

theorem send (ok : Accounts k) (n : Int) (bytes : List UInt8) : Accounts (k.send n bytes) :=
  ok.congr (by simp) (by simp) (by simp) (by simp)

/-- Before the first `accept`. -/
theorem initial : Accounts Kernel.initial :=
  ⟨fun _ _ opened => (Option.noConfusion opened), fun _ _ _ opened => (Option.noConfusion opened),
    fun _ below => absurd below (Nat.not_lt_zero _), fun _ _ opened => (Option.noConfusion opened),
    fun _ _ => rfl, rfl⟩

theorem accept (ok : Accounts k) (fresh : k.fds fd = none) : Accounts (k.accept fd) where
  id_lt n id opened := by
    by_cases same : n = fd
    · subst same; simp at opened; simp; omega
    · simp [same] at opened; have := ok.id_lt n id opened; simp; omega
  id_injective n m id first second := by
    by_cases nSame : n = fd <;> by_cases mSame : m = fd
    · exact nSame.trans mSame.symm
    · subst nSame; simp at first; simp [mSame] at second
      have := ok.id_lt m id second; omega
    · subst mSame; simp [nSame] at first; simp at second
      have := ok.id_lt n id first; omega
    · simp [nSame, mSame] at first second; exact ok.id_injective n m id first second
  closed_once id below gone := by
    have notNew : id ≠ k.accepted := fun same => gone ⟨fd, by simp [same]⟩
    refine ok.closed_once id (by simp at below; omega) fun ⟨n, opened⟩ => gone ⟨n, ?_⟩
    have : n ≠ fd := fun same => by simp [same, fresh] at opened
    simpa [this] using opened
  open_unclosed n id opened := by
    by_cases same : n = fd
    · subst same; simp at opened; subst opened; exact ok.future_unclosed _ le_rfl
    · exact ok.open_unclosed n id (by simpa [same] using opened)
  future_unclosed id later := ok.future_unclosed id (by simp at later; omega)
  stray_eq := by simpa using ok.stray_eq

theorem close (ok : Accounts k) (opened : (k.fds fd).isSome) : Accounts (k.close fd) := by
  obtain ⟨id, opened⟩ := Option.isSome_iff_exists.mp opened
  have others : ∀ n id', n ≠ fd →
      (Function.update k.fds fd none n = some id' ↔ k.fds n = some id') :=
    fun n id' different => by simp [different]
  rw [Kernel.close_of_open opened]
  refine ⟨fun n id' member => ?_, fun n m id' first second => ?_, fun id' below gone => ?_,
    fun n id' member => ?_, fun id' later => ?_, ok.stray_eq⟩
  · by_cases same : n = fd
    · subst same; simp at member
    · exact ok.id_lt n id' ((others n id' same).mp member)
  · by_cases nSame : n = fd
    · subst nSame; simp at first
    · by_cases mSame : m = fd
      · subst mSame; simp at second
      · exact ok.id_injective n m id' ((others n id' nSame).mp first) ((others m id' mSame).mp second)
  · by_cases same : id' = id
    · subst same; simp [ok.open_unclosed fd id' opened]
    · simp only [Function.update_noteq same]
      refine ok.closed_once id' below fun ⟨n, member⟩ => gone ⟨n, ?_⟩
      have : n ≠ fd := fun nSame => by subst nSame; simp_all
      exact (others n id' this).mpr member
  · have nOther : n ≠ fd := fun same => by subst same; simp at member
    have member := (others n id' nOther).mp member
    have idOther : id' ≠ id := fun same => nOther (ok.id_injective n fd id' member (same ▸ opened))
    simp only [Function.update_noteq idOther]
    exact ok.open_unclosed n id' member
  · have idOther : id' ≠ id := fun same => by
      have := ok.id_lt fd id opened; simp at later; omega
    simp only [Function.update_noteq idOther]
    exact ok.future_unclosed id' (by simpa using later)

end Accounts

/-! ### What a client event does to the kernel -/

/-- `k'` differs from `k` at most in the registration of `fd`, which still names slot `i`, and
in the bytes the sockets took. -/
structure Touched (k k' : Kernel) (fd : Int) (i : Slot) : Prop where
  fds_eq : k'.fds = k.fds
  accepted_eq : k'.accepted = k.accepted
  closes_eq : k'.closes = k.closes
  stray_eq : k'.stray = k.stray
  epoll_ne : ∀ n, n ≠ fd → k'.epoll n = k.epoll n
  epoll_fd : ∃ ev, k'.epoll fd = some ⟨ev, i⟩

namespace Touched

variable {k k' k'' : Kernel} {fd : Int} {i : Slot}

theorem refl (registered : ∃ ev, k.epoll fd = some ⟨ev, i⟩) : Touched k k fd i :=
  ⟨rfl, rfl, rfl, rfl, fun _ _ => rfl, registered⟩

theorem send (t : Touched k k' fd i) (n : Int) (bytes : List UInt8) :
    Touched k (k'.send n bytes) fd i := by
  obtain ⟨fdsEq, acceptedEq, closesEq, strayEq, epollNe, epollFd⟩ := t
  exact ⟨by simp [fdsEq], by simp [acceptedEq], by simp [closesEq], by simp [strayEq],
    fun n' other => by simp [epollNe n' other], by simpa using epollFd⟩

theorem mod (t : Touched k k' fd i) {ev : Interest} {ok : Bool}
    (modified : k'.epollMod fd ⟨ev, i⟩ ok = some k'') : Touched k k'' fd i := by
  obtain ⟨-, rfl⟩ := Kernel.epollMod_eq_some modified
  exact ⟨t.fds_eq, t.accepted_eq, t.closes_eq, t.stray_eq,
    fun n other => by simp [other, t.epoll_ne n other], ⟨ev, by simp⟩⟩

theorem accounts (t : Touched k k' fd i) (ok : Accounts k) : Accounts k' :=
  ok.congr t.fds_eq t.accepted_eq t.closes_eq t.stray_eq

end Touched

/-! ### What a client event does to the pool -/

/-- What a client event on slot `i` may do. It changes no other slot and keeps slot `i`'s buffer
in shape. It either keeps the connection against a touched kernel, or drops it, which closes its
descriptor once. -/
structure ClientEffect (w w' : World) (i : Slot) : Prop where
  others : ∀ j, j ≠ i → w'.connections j = w.connections j
  buffer : BufferOk (w'.connections i)
  kept_or_dropped :
    (Touched w.kernel w'.kernel (w.connections i).fd i ∧
        (w'.connections i).fd = (w.connections i).fd ∧ SlotOk w'.kernel i (w'.connections i)) ∨
      (∃ k, Touched w.kernel k (w.connections i).fd i ∧ w'.kernel = k.close (w.connections i).fd ∧
        FreeOk (w'.connections i))

/-- An occupied slot's facts survive a kernel that agrees at its descriptor. -/
theorem SlotOk.transfer {k k' : Kernel} {j : Slot} {c : Connection} (ok : SlotOk k j c)
    (fdsSame : k'.fds c.fd = k.fds c.fd) (epollSame : k'.epoll c.fd = k.epoll c.fd) :
    SlotOk k' j c :=
  ⟨fdsSame ▸ ok.opened, epollSame ▸ ok.registered,
    fun r pending => epollSame ▸ ok.writing r pending, fun reading => ok.reading (epollSame ▸ reading)⟩

/-- Away from the event's descriptor, the kernel is as it was. -/
theorem ClientEffect.frame {w w' : World} {i : Slot} (effect : ClientEffect w w' i)
    (opened : (w.kernel.fds (w.connections i).fd).isSome) (n : Int)
    (other : n ≠ (w.connections i).fd) :
    w'.kernel.fds n = w.kernel.fds n ∧ w'.kernel.epoll n = w.kernel.epoll n := by
  rcases effect.kept_or_dropped with ⟨touched, -, -⟩ | ⟨k, touched, dropped, -⟩
  · exact ⟨by rw [touched.fds_eq], touched.epoll_ne n other⟩
  · rw [dropped, Kernel.close_fds, Kernel.close_epoll_of_open (by rwa [touched.fds_eq])]
    simp [other, touched.fds_eq, touched.epoll_ne n other]

/-- A slot keeps its descriptor through a client event, or is released. -/
theorem ClientEffect.fd_cases {w w' : World} {i : Slot} (effect : ClientEffect w w' i) (j : Slot) :
    (w'.connections j).fd = (w.connections j).fd ∨ (w'.connections j).fd = -1 := by
  by_cases here : j = i
  · subst here
    rcases effect.kept_or_dropped with ⟨-, sameFd, -⟩ | ⟨-, -, -, dropped⟩
    exacts [.inl sameFd, .inr dropped.fd_eq]
  · exact .inl (by rw [effect.others j here])

/-- The slot a delivered client event names holds the event's descriptor. -/
theorem Inv.slot_of_delivered {w : World} (inv : Inv w) {fd : Int} {i : Slot} {mask : Mask}
    (delivered : (Event.client fd i mask).Delivered w.kernel) :
    (w.connections i).fd = fd ∧ 0 ≤ fd ∧ ∃ r, w.kernel.epoll fd = some r ∧ r.ptr = i ∧
      (mask.epollin = true → r.events = .epollin) ∧ (mask.epollout = true → r.events = .epollout) := by
  obtain ⟨r, registered, ptr, input, output⟩ := delivered
  obtain ⟨opened, owner⟩ := inv.registrations fd r registered
  obtain ⟨j, occupied, same⟩ := inv.owned fd opened
  exact ⟨ptr ▸ owner, same ▸ occupied, r, registered, ptr, input, output⟩

/-- A client event keeps the invariant whatever it did, as long as it had a `ClientEffect`. -/
theorem Inv.client {w w' : World} {fd : Int} {i : Slot} {mask : Mask} {rest : List Event}
    (inv : Inv w) (next : w.events = .client fd i mask :: rest) (effect : ClientEffect w w' i) :
    Inv { w' with events := rest } := by
  obtain ⟨fdEq, fdNonneg, -⟩ := inv.slot_of_delivered (inv.pending (.client fd i mask) (by simp [next]))
  have occupied : 0 ≤ (w.connections i).fd := fdEq ▸ fdNonneg
  have opened := (inv.slots i occupied).opened
  have frame := effect.frame opened
  obtain ⟨restFresh, restNodup⟩ :
      fd ∉ rest.filterMap Event.clientFd ∧ (rest.filterMap Event.clientFd).Nodup := by
    have nodup := inv.pending_nodup
    rw [next] at nodup
    exact List.nodup_cons.mp nodup
  -- an occupied slot of the new pool holds the descriptor it held before
  have kept : ∀ j, 0 ≤ (w'.connections j).fd → (w'.connections j).fd = (w.connections j).fd :=
    fun j taken => (effect.fd_cases j).resolve_right (by omega)
  refine ⟨fun j => ?_, fun j free => ?_, fun j taken => ?_, fun a b taken same => ?_,
    fun n isOpen => ?_, fun n r registered => ?_, ?_, fun e member => ?_, restNodup⟩
  · by_cases here : j = i
    · exact here ▸ effect.buffer
    · rw [effect.others j here]; exact inv.buffers j
  · by_cases here : j = i
    · subst here
      rcases effect.kept_or_dropped with ⟨-, sameFd, -⟩ | ⟨-, -, -, dropped⟩
      · simp only at free; omega
      · exact dropped
    · simp only at free ⊢
      rw [effect.others j here] at free ⊢
      exact inv.free j free
  · simp only at taken ⊢
    by_cases here : j = i
    · subst here
      rcases effect.kept_or_dropped with ⟨-, -, kept⟩ | ⟨-, -, -, dropped⟩
      · exact kept
      · rw [dropped.fd_eq] at taken; omega
    · rw [effect.others j here] at taken ⊢
      have apart : (w.connections j).fd ≠ (w.connections i).fd :=
        fun same => here (inv.injective j i taken same)
      obtain ⟨fdsSame, epollSame⟩ := frame _ apart
      exact (inv.slots j taken).transfer fdsSame epollSame
  · simp only at taken same
    exact inv.injective a b (kept a taken ▸ taken)
      (by rw [← kept a taken, ← kept b (same ▸ taken), same])
  · by_cases here : n = (w.connections i).fd
    · rcases effect.kept_or_dropped with ⟨-, sameFd, -⟩ | ⟨k, touched, dropped, -⟩
      · exact ⟨i, by rw [sameFd]; exact occupied, by rw [sameFd, here]⟩
      · simp [here, dropped, Kernel.close_fds] at isOpen
    · rw [(frame n here).1] at isOpen
      obtain ⟨j, taken, owner⟩ := inv.owned n isOpen
      have other : j ≠ i := fun same => here (same ▸ owner.symm)
      exact ⟨j, by rw [effect.others j other]; exact taken, by rw [effect.others j other]; exact owner⟩
  · by_cases here : n = (w.connections i).fd
    · subst here
      rcases effect.kept_or_dropped with ⟨touched, sameFd, -⟩ | ⟨k, touched, dropped, -⟩
      · obtain ⟨ev, now⟩ := touched.epoll_fd
        rw [now] at registered
        cases registered
        exact ⟨by rw [touched.fds_eq]; exact opened, sameFd⟩
      · rw [dropped, Kernel.close_epoll_of_open (by rwa [touched.fds_eq])] at registered
        simp at registered
    · rw [(frame n here).2] at registered
      obtain ⟨isOpen, owner⟩ := inv.registrations n r registered
      have other : r.ptr ≠ i := fun same => here (by rw [← owner, same])
      exact ⟨by rwa [(frame n here).1], by rw [effect.others _ other]; exact owner⟩
  · rcases effect.kept_or_dropped with ⟨touched, -, -⟩ | ⟨k, touched, dropped, -⟩
    · exact touched.accounts inv.accounts
    · rw [dropped]
      exact (touched.accounts inv.accounts).close (by rwa [touched.fds_eq])
  · cases e with
    | listener => trivial
    | client n p m =>
      have other : n ≠ (w.connections i).fd := by
        rw [fdEq]
        rintro rfl
        exact restFresh (List.mem_filterMap.mpr ⟨_, member, rfl⟩)
      obtain ⟨r, registered, rest⟩ := inv.pending (.client n p m) (by simp [next, member])
      exact ⟨r, by rw [(frame n other).2]; exact registered, rest⟩

/-! ### The buffer through the read path -/

namespace BufferOk

variable {c : Connection}

theorem release (ok : BufferOk c) : BufferOk c.release := ⟨by simp, ok.last_nul⟩

theorem store (ok : BufferOk c) (r : Reply) : BufferOk (c.store r) := ⟨ok.used_le, ok.last_nul⟩

/-- Writing the NUL at `buffer_used` stays in bounds and keeps the last byte 0. -/
theorem terminate (ok : BufferOk c) : BufferOk c.terminate := by
  have inside : c.bufferUsed < c.buffer.length := by
    have := ok.used_le
    rw [c.length_buffer]; unfold bufferSize at *; omega
  refine ⟨ok.used_le, ?_⟩
  rw [Connection.terminate_buffer, List.getElem?_set, if_pos inside]
  by_cases atEnd : c.bufferUsed = bufferSize - 1 <;> simp [atEnd, ok.last_nul]

/-- A `recv` of at most `BUFFER_SIZE - buffer_used - 1` bytes never reaches the last byte. -/
theorem receive (ok : BufferOk c) {bytes : List UInt8}
    (fits : bytes.length ≤ bufferSize - c.bufferUsed - 1) : BufferOk (c.receive bytes) := by
  have used := ok.used_le
  exact ⟨show c.bufferUsed + bytes.length ≤ bufferSize - 1 by omega,
    (getElem?_overwrite_of_le (by omega)).trans ok.last_nul⟩

end BufferOk

/-! ### The effects the handler's pieces have -/

namespace ClientEffect

variable {w w₁ : World} {i : Slot}

/-- Doing nothing to an occupied slot. -/
theorem refl (inv : Inv w) (occupied : 0 ≤ (w.connections i).fd) : ClientEffect w w i :=
  ⟨fun _ _ => rfl, inv.buffers i,
    .inl ⟨Touched.refl (inv.slots i occupied).registered, rfl, inv.slots i occupied⟩⟩

/-- `remove_connection` on a slot that kept its descriptor against a touched kernel. -/
theorem release (others : ∀ j, j ≠ i → w₁.connections j = w.connections j)
    (buffer : BufferOk (w₁.connections i))
    (touched : Touched w.kernel w₁.kernel (w.connections i).fd i)
    (sameFd : (w₁.connections i).fd = (w.connections i).fd) (occupied : 0 ≤ (w.connections i).fd) :
    ClientEffect w (w₁.dropConnection i) i := by
  refine ⟨fun j other => ?_, by simpa [World.dropConnection] using buffer.release,
    .inr ⟨w₁.kernel, touched, ?_, by simpa using FreeOk.release _⟩⟩
  · simp [World.dropConnection, other, others j other]
  · rw [World.dropConnection, removeConnection_snd_of_occupied (by rwa [sameFd]), sameFd]

/-- A second `remove_connection` of the same slot: it closes nothing more. -/
theorem drop (effect : ClientEffect w w₁ i) (occupied : 0 ≤ (w.connections i).fd) :
    ClientEffect w (w₁.dropConnection i) i := by
  rcases effect.kept_or_dropped with ⟨touched, sameFd, -⟩ | ⟨k, touched, dropped, free⟩
  · exact release effect.others effect.buffer touched sameFd occupied
  · refine ⟨fun j other => ?_, by simpa [World.dropConnection] using effect.buffer.release,
      .inr ⟨k, touched, ?_, by simpa using FreeOk.release _⟩⟩
    · simp [World.dropConnection, other, effect.others j other]
    · rw [World.dropConnection, removeConnection_snd_of_free (by rw [free.fd_eq]; omega), dropped]

/-- The error check after a branch. -/
theorem checkErrors (effect : ClientEffect w w₁ i) (occupied : 0 ≤ (w.connections i).fd)
    (mask : Mask) : ClientEffect w (EpollWebServer.checkErrors w₁ i mask) i := by
  unfold EpollWebServer.checkErrors
  split_ifs
  exacts [effect.drop occupied, effect]

/-- Storing a response and switching to `EPOLLOUT`; a failed `epoll_ctl` drops the
connection. -/
theorem changeToWriteMode (inv : Inv w) (occupied : 0 ≤ (w.connections i).fd) {c : Connection}
    (buffer : BufferOk c) (sameFd : c.fd = (w.connections i).fd)
    (writing : ∀ r, c.response = some r → r.length = c.responseSize ∧ c.responseSent ≤ c.responseSize)
    (ctlOk : Bool) : ClientEffect w (w.changeToWriteMode i c ctlOk).1 i := by
  have others : ∀ j, j ≠ i → (w.setConnection i c).connections j = w.connections j :=
    fun j other => by simp [World.setConnection, other]
  have touched := Touched.refl (inv.slots i occupied).registered
  unfold World.changeToWriteMode
  split
  · rename_i k modified
    have now : k.epoll c.fd = some ⟨.epollout, i⟩ := by
      obtain ⟨-, rfl⟩ := Kernel.epollMod_eq_some modified
      simp
    refine ⟨others, by simpa [World.setConnection] using buffer,
      .inl ⟨touched.mod (sameFd ▸ modified), by simpa [World.setConnection] using sameFd, ?_⟩⟩
    simp only [World.setConnection, Function.update_same]
    refine ⟨?_, ⟨_, now⟩, fun r pending => ⟨(writing r pending).1, (writing r pending).2, now⟩,
      fun reading => by simp [now] at reading⟩
    rw [(Kernel.epollMod_sent modified).2, sameFd]
    exact (inv.slots i occupied).opened
  · exact release others (by simpa [World.setConnection] using buffer) touched
      (by simpa [World.setConnection] using sameFd) occupied

end ClientEffect

/-- What `send_response` keeps of an occupied slot in write mode. The kernel is touched only at
the slot's registration, and `buffer_used` stays or drops to 0. When the call does not return
-1, the slot is still well formed. -/
theorem sendResponse_slotOk {k : Kernel} {i : Slot} {c : Connection} (slot : SlotOk k i c)
    (writing : k.epoll c.fd = some ⟨.epollout, i⟩) (result : SendResult) (ctlOk : Bool) :
    Touched k (sendResponse c i k result ctlOk).2.2 c.fd i ∧
      ((sendResponse c i k result ctlOk).2.1.bufferUsed = c.bufferUsed ∨
        (sendResponse c i k result ctlOk).2.1.bufferUsed = 0) ∧
      (0 ≤ (sendResponse c i k result ctlOk).1 →
        SlotOk (sendResponse c i k result ctlOk).2.2 i (sendResponse c i k result ctlOk).2.1) := by
  have same := Touched.refl slot.registered
  unfold sendResponse
  split
  · exact ⟨same, .inl rfl, fun negative => absurd negative (not_le.mpr neg_one_lt_zero)⟩
  · rename_i r pending
    split
    · exact ⟨same, .inl rfl, fun _ => slot⟩
    · exact ⟨same, .inl rfl, fun negative => absurd negative (not_le.mpr neg_one_lt_zero)⟩
    · rename_i count
      dsimp only
      have sent := same.send c.fd (((r.drop c.responseSent).take (c.responseSize - c.responseSent)).take count)
      split_ifs with complete keep
      · split
        · rename_i k' modified
          refine ⟨sent.mod modified, .inr rfl, fun _ => ?_⟩
          obtain ⟨-, rfl⟩ := Kernel.epollMod_eq_some modified
          exact ⟨by simpa using slot.opened, ⟨.epollin, by simp⟩, fun _ none => by simp at none,
            fun _ => ⟨rfl, by simp [bufferSize]⟩⟩
        · exact ⟨sent, .inr rfl, fun negative => absurd negative (not_le.mpr neg_one_lt_zero)⟩
      · exact ⟨sent, .inl rfl, fun negative => absurd negative (not_le.mpr neg_one_lt_zero)⟩
      · refine ⟨sent, .inl rfl, fun _ => ⟨by simpa using slot.opened, by simpa using slot.registered,
          fun r' stored => ?_, fun reading => by simp [writing] at reading⟩⟩
        obtain ⟨length, -, -⟩ := slot.writing r' stored
        exact ⟨length, by dsimp only at length complete ⊢; omega, by simpa using writing⟩

/-- Every branch of the `EPOLLIN` handler has a `ClientEffect`, for a slot registered for
`EPOLLIN` and a `recv` that stays inside the buffer. -/
theorem onReadable_effect {w : World} {i : Slot} (inv : Inv w) (occupied : 0 ≤ (w.connections i).fd)
    (reading : w.kernel.epoll (w.connections i).fd = some ⟨.epollin, i⟩) {o : Outcome}
    (fits : o.recv.Fits (bufferSize - (w.connections i).bufferUsed - 1)) :
    ClientEffect w (onReadable w i o).1 i := by
  have slot := inv.slots i occupied
  obtain ⟨noResponse, roomLeft⟩ := slot.reading reading
  unfold onReadable
  rw [noResponse]
  simp only [Option.isSome_none, Bool.false_eq_true, if_false]
  cases received : o.recv with
  | wouldBlock => exact .refl inv occupied
  | failed => exact (ClientEffect.refl inv occupied).drop occupied
  | received bytes =>
    rw [received] at fits
    have buffer := (inv.buffers i).receive fits
    dsimp only
    split_ifs with closed found full
    · exact (ClientEffect.refl inv occupied).drop occupied
    · exact ClientEffect.changeToWriteMode inv occupied (buffer.terminate.store _) rfl
        (fun r built => ⟨buildResponse_length _ _ built, Nat.zero_le _⟩) _
    · exact ClientEffect.changeToWriteMode inv occupied
        (buffer.store (errorReply response413 o.collaborators.strdupOk)) rfl
        (fun r built => ⟨errorReply_length built, Nat.zero_le _⟩) _
    · refine ⟨fun j other => by simp [other], by simpa using buffer, .inl ⟨Touched.refl
        slot.registered, by simp [Connection.receive], ?_⟩⟩
      simp only [World.setConnection_connections, Function.update_same, World.setConnection_kernel]
      exact ⟨slot.opened, slot.registered, fun r stored => by simp_all [Connection.receive],
        fun _ => ⟨noResponse, by omega⟩⟩

/-- The `EPOLLOUT` branch has a `ClientEffect`, for a slot registered for `EPOLLOUT`. -/
theorem onWritable_effect {w : World} {i : Slot} (inv : Inv w) (occupied : 0 ≤ (w.connections i).fd)
    (writing : w.kernel.epoll (w.connections i).fd = some ⟨.epollout, i⟩) (o : Outcome) :
    ClientEffect w (onWritable w i o) i := by
  obtain ⟨touched, used, slotAfter⟩ :=
    sendResponse_slotOk (inv.slots i occupied) writing o.send o.ctlOk
  obtain ⟨sameFd, sameBuffer, -⟩ :=
    sendResponse_fd (w.connections i) i w.kernel o.send o.ctlOk
  have buffer : BufferOk (sendResponse (w.connections i) i w.kernel o.send o.ctlOk).2.1 := by
    have usedLe := (inv.buffers i).used_le
    refine ⟨by rcases used with same | same <;> rw [same] <;> omega, ?_⟩
    rw [sameBuffer]; exact (inv.buffers i).last_nul
  have others : ∀ j, j ≠ i → ({ w.setConnection i (sendResponse (w.connections i) i w.kernel
      o.send o.ctlOk).2.1 with kernel := (sendResponse (w.connections i) i w.kernel o.send o.ctlOk).2.2 } :
      World).connections j = w.connections j := fun j other => by simp [other]
  unfold onWritable
  dsimp only
  split_ifs with failed
  · exact ClientEffect.release others (by simpa using buffer) touched (by simpa using sameFd) occupied
  · exact ⟨others, by simpa using buffer, .inl ⟨touched, by simpa using sameFd,
      by simpa using slotAfter (by omega)⟩⟩

/-- The whole client handler has a `ClientEffect` on a delivered event. -/
theorem handleClient_effect {w : World} {fd : Int} {i : Slot} {mask : Mask} (inv : Inv w)
    (delivered : (Event.client fd i mask).Delivered w.kernel) {o : Outcome}
    (fits : o.Fits (w.connections i)) : ClientEffect w (handleClient w i mask o) i := by
  obtain ⟨fdEq, fdNonneg, r, registered, ptr, input, output⟩ := inv.slot_of_delivered delivered
  have occupied : 0 ≤ (w.connections i).fd := fdEq ▸ fdNonneg
  have interest : ∀ ev, r.events = ev → w.kernel.epoll (w.connections i).fd = some ⟨ev, i⟩ := by
    rintro ev rfl
    rw [fdEq, registered, ← ptr]
  unfold handleClient
  split_ifs with readable fallsThrough writable
  · exact (onReadable_effect inv occupied (interest _ (input readable)) fits.1).checkErrors occupied mask
  · exact onReadable_effect inv occupied (interest _ (input readable)) fits.1
  · exact (onWritable_effect inv occupied (interest _ (output writable)) o).checkErrors occupied mask
  · exact (ClientEffect.refl inv occupied).checkErrors occupied mask

/-! ### The steps around the handler -/

/-- A delivered event stays deliverable while the registrations stay. -/
theorem Event.Delivered.congr {k k' : Kernel} {e : Event} (delivered : e.Delivered k)
    (epollEq : k'.epoll = k.epoll) : e.Delivered k' := by
  cases e with
  | listener => trivial
  | client n p m => simpa only [Event.Delivered, epollEq] using delivered

theorem BufferOk.install {c : Connection} (ok : BufferOk c) (fd : Int) : BufferOk (c.install fd) :=
  ⟨Nat.zero_le _, ok.last_nul⟩

/-- Closing the descriptor that was just accepted restores the open descriptors and the
registrations. -/
theorem Kernel.close_accepted_restores {k k₁ : Kernel} {fd : Int} (fresh : k.fds fd = none)
    (unregistered : k.epoll fd = none) (fdsEq : k₁.fds = (k.accept fd).fds)
    (epollEq : k₁.epoll = k.epoll) : (k₁.close fd).fds = k.fds ∧ (k₁.close fd).epoll = k.epoll := by
  rw [Kernel.close_fds, Kernel.close_epoll_of_open (by simp [fdsEq]), fdsEq, epollEq,
    Kernel.accept_fds, Function.update_idem, ← fresh, ← unregistered]
  exact ⟨Function.update_eq_self _ _, Function.update_eq_self _ _⟩

theorem Inv.unregistered {w : World} (inv : Inv w) {fd : Int} (fresh : w.kernel.fds fd = none) :
    w.kernel.epoll fd = none := by
  cases registered : w.kernel.epoll fd with
  | none => rfl
  | some r => simpa [fresh] using (inv.registrations fd r registered).1

theorem Inv.initial : Inv World.initial where
  buffers _ := ⟨Nat.zero_le _, show (List.replicate bufferSize 0)[bufferSize - 1]? = some 0 by
    rw [List.getElem?_replicate, if_pos (by decide)]⟩
  free _ _ := ⟨rfl, rfl, rfl, rfl⟩
  slots _ taken := ((show ¬(0 : Int) ≤ -1 by decide) taken).elim
  injective _ _ taken := ((show ¬(0 : Int) ≤ -1 by decide) taken).elim
  owned _ isOpen := by simp [World.initial, Kernel.initial] at isOpen
  registrations _ _ registered := by simp [World.initial, Kernel.initial] at registered
  accounts := Accounts.initial
  pending _ member := by simp [World.initial] at member
  pending_nodup := List.nodup_nil

/-- A step that leaves every occupied slot alone, resets at most free slots, and restores the
open descriptors and the registrations keeps the invariant. -/
theorem Inv.restore {w w' : World} (inv : Inv w)
    (connections : ∀ j, w'.connections j = w.connections j ∨
      ((w.connections j).fd < 0 ∧ FreeOk (w'.connections j) ∧ BufferOk (w'.connections j)))
    (fdsEq : w'.kernel.fds = w.kernel.fds) (epollEq : w'.kernel.epoll = w.kernel.epoll)
    (accounts : Accounts w'.kernel) (events : w'.events = w.events) : Inv w' := by
  have kept : ∀ j, 0 ≤ (w'.connections j).fd → w'.connections j = w.connections j :=
    fun j taken => (connections j).resolve_right fun ⟨_, free, _⟩ => by rw [free.fd_eq] at taken; omega
  have keptOld : ∀ j, 0 ≤ (w.connections j).fd → w'.connections j = w.connections j :=
    fun j taken => (connections j).resolve_right fun ⟨free, _⟩ => by omega
  refine ⟨fun j => ?_, fun j free => ?_, fun j taken => ?_, fun a b taken same => ?_,
    fun n isOpen => ?_, fun n r registered => ?_, accounts, ?_, events ▸ inv.pending_nodup⟩
  · rcases connections j with same | ⟨-, -, buffer⟩
    exacts [same ▸ inv.buffers j, buffer]
  · rcases connections j with same | ⟨-, freeOk, -⟩
    · rw [same] at free ⊢; exact inv.free j free
    · exact freeOk
  · have same := kept j taken
    rw [same] at taken ⊢
    exact (inv.slots j taken).transfer (by rw [fdsEq]) (by rw [epollEq])
  · have takenB : 0 ≤ (w'.connections b).fd := same ▸ taken
    rw [kept a taken, kept b takenB] at same
    exact inv.injective a b (kept a taken ▸ taken) same
  · obtain ⟨j, taken, owner⟩ := inv.owned n (fdsEq ▸ isOpen)
    exact ⟨j, by rwa [keptOld j taken], by rwa [keptOld j taken]⟩
  · obtain ⟨isOpen, owner⟩ := inv.registrations n r (epollEq ▸ registered)
    obtain ⟨j, taken, ownerJ⟩ := inv.owned n isOpen
    have occupied : 0 ≤ (w.connections r.ptr).fd := by rw [owner, ← ownerJ]; exact taken
    exact ⟨by rwa [fdsEq], by rwa [keptOld _ occupied]⟩
  · rw [events]
    exact fun e member => (inv.pending e member).congr epollEq

/-- The accept loop installs a fresh descriptor in a free slot and registers it. -/
theorem Inv.install {w : World} (inv : Inv w) {fd : Int} (valid : 0 ≤ fd)
    (fresh : w.kernel.fds fd = none) {i : Slot} (free : (w.connections i).fd < 0) {ctlOk : Bool}
    {k : Kernel} (added : (w.kernel.accept fd).epollAdd fd ⟨.epollin, i⟩ ctlOk = some k) :
    Inv { w with connections := Function.update w.connections i ((w.connections i).install fd),
                 kernel := k, connectionCount := w.connectionCount + 1 } := by
  obtain ⟨-, -, rfl⟩ := Kernel.epollAdd_eq_some added
  have unregistered := inv.unregistered fresh
  -- no occupied slot holds the fresh descriptor
  have apart : ∀ j, 0 ≤ (w.connections j).fd → (w.connections j).fd ≠ fd := fun j taken same => by
    simpa [same, fresh] using (inv.slots j taken).opened
  have fdOf : ∀ j, (Function.update w.connections i ((w.connections i).install fd) j).fd =
      if j = i then fd else (w.connections j).fd := fun j => by
    by_cases here : j = i
    · subst here; simp
    · simp [here]
  refine ⟨fun j => ?_, fun j isFree => ?_, fun j taken => ?_, fun a b taken same => ?_,
    fun n isOpen => ?_, fun n r registered => ?_, ?_, fun e member => ?_, inv.pending_nodup⟩
  · by_cases here : j = i
    · subst here; simpa using (inv.buffers j).install fd
    · simpa [here] using inv.buffers j
  · have other : j ≠ i := fun here => by simp only [fdOf, if_pos here] at isFree; omega
    simpa [other] using inv.free j (by simpa [other] using isFree)
  · by_cases here : j = i
    · subst here
      simp only [Function.update_same]
      exact ⟨by simp, ⟨.epollin, by simp⟩, fun _ none => by simp [Connection.install] at none,
        fun _ => ⟨rfl, by simp [Connection.install, bufferSize]⟩⟩
    · simp only [Function.update_noteq here] at taken ⊢
      exact (inv.slots j taken).transfer (by simp [apart j taken]) (by simp [apart j taken])
  · simp only [fdOf] at taken same
    split_ifs at taken same with aHere bHere bHere
    · rw [aHere, bHere]
    · exact absurd same.symm (apart b (same ▸ taken))
    · exact absurd same (apart a taken)
    · exact inv.injective a b taken same
  · by_cases here : n = fd
    · exact ⟨i, by simp [fdOf, valid], by simp [fdOf, here]⟩
    · obtain ⟨j, taken, owner⟩ := inv.owned n (by simpa [here] using isOpen)
      have other : j ≠ i := fun same => by subst same; omega
      exact ⟨j, by simpa [fdOf, other] using taken, by simpa [fdOf, other] using owner⟩
  · by_cases here : n = fd
    · subst here
      simp only [Function.update_same, Option.some.injEq] at registered
      subst registered
      exact ⟨by simp, by simp [fdOf]⟩
    · obtain ⟨isOpen, owner⟩ := inv.registrations n r (by simpa [here] using registered)
      obtain ⟨j, taken, ownerJ⟩ := inv.owned n isOpen
      have other : r.ptr ≠ i := fun same => by rw [same] at owner; omega
      exact ⟨by simpa [here] using isOpen, by simpa [fdOf, other] using owner⟩
  · exact (inv.accounts.accept fresh).congr rfl rfl rfl rfl
  · have delivered := inv.pending e member
    cases e with
    | listener => trivial
    | client n p m =>
      obtain ⟨r, registered, rest⟩ := delivered
      have other : n ≠ fd := fun same => by simp [same, unregistered] at registered
      exact ⟨r, by simpa [other] using registered, rest⟩

/-- One turn of the accept loop keeps the invariant, whichever way it goes. -/
theorem Inv.acceptConnection {w : World} (inv : Inv w) {fd : Int} (valid : 0 ≤ fd)
    (fresh : w.kernel.fds fd = none) (o : AcceptOutcome) : Inv (acceptConnection w fd o) := by
  have unregistered := inv.unregistered fresh
  have opened : ((w.kernel.accept fd).fds fd).isSome := by simp
  unfold EpollWebServer.acceptConnection
  dsimp only
  split_ifs with failed
  · have restored := Kernel.close_accepted_restores fresh unregistered rfl rfl
    exact inv.restore (fun _ => .inl rfl) restored.1 restored.2
      ((inv.accounts.accept fresh).close opened) rfl
  split
  · rename_i conns full
    let k := (w.kernel.accept fd).send fd (o.send.taken response503)
    have restored : (k.close fd).fds = w.kernel.fds ∧ (k.close fd).epoll = w.kernel.epoll :=
      Kernel.close_accepted_restores fresh unregistered (by simp [k]) (by simp [k])
    exact inv.restore (fun _ => .inl rfl) restored.1 restored.2
      (((inv.accounts.accept fresh).send fd _).close (by simp)) rfl
  · rename_i i conns found
    have slot : (addConnection w.connections fd).1 = some i := by rw [found]
    obtain ⟨free, pool⟩ := addConnection_some slot
    rw [found] at pool
    subst pool
    split
    · rename_i k added
      exact inv.install valid fresh free added
    · have restored := Kernel.close_accepted_restores fresh unregistered rfl rfl
      rw [removeConnection_snd_of_occupied (by simpa using valid)]
      simp only [removeConnection_fst, Function.update_same, Connection.install_fd]
      refine inv.restore (fun j => ?_) restored.1 restored.2
        ((inv.accounts.accept fresh).close opened) rfl
      by_cases here : j = i
      · subst here
        exact .inr ⟨free, by simpa using FreeOk.release _, by simpa using ((inv.buffers j).install fd).release⟩
      · exact .inl (by simp [here])

/-- A client event keeps the invariant. -/
theorem Inv.client_step {w : World} {fd : Int} {i : Slot} {mask : Mask} {rest : List Event}
    (inv : Inv w) (next : w.events = .client fd i mask :: rest) {o : Outcome}
    (fits : o.Fits (w.connections i)) : Inv { handleClient w i mask o with events := rest } :=
  inv.client next (handleClient_effect inv (inv.pending (.client fd i mask) (by simp [next])) fits)

/-! ### Shutdown -/

/-- The loop of `free_connections` over distinct slots, from a kernel whose open descriptors are
the occupied slots' among them: it closes each of them once, and leaves nothing open. -/
theorem foldClose_accounts (conns : Pool)
    (distinct : ∀ i j, 0 ≤ (conns i).fd → (conns i).fd = (conns j).fd → i = j) :
    ∀ (slots : List Slot) (k : Kernel), slots.Nodup → Accounts k →
      (∀ j ∈ slots, 0 ≤ (conns j).fd → (k.fds (conns j).fd).isSome) →
      (∀ n, (k.fds n).isSome → ∃ j ∈ slots, 0 ≤ (conns j).fd ∧ (conns j).fd = n) →
      Accounts (slots.foldl (closeSlot conns) k) ∧ ∀ n, (slots.foldl (closeSlot conns) k).fds n = none
  | [], k, _, accounts, _, owned => ⟨accounts, fun n => Option.not_isSome_iff_eq_none.mp
      fun isOpen => by simpa using owned n isOpen⟩
  | j :: rest, k, nodup, accounts, opened, owned => by
    obtain ⟨notMem, restNodup⟩ := List.nodup_cons.mp nodup
    have apart : ∀ j' ∈ rest, 0 ≤ (conns j').fd → (conns j').fd ≠ (conns j).fd :=
      fun j' member taken same => notMem (distinct j' j taken same ▸ member)
    simp only [List.foldl_cons, closeSlot]
    split_ifs with occupied
    · refine foldClose_accounts conns distinct rest _ restNodup
        (accounts.close (opened j (by simp) occupied)) (fun j' member taken => ?_) (fun n isOpen => ?_)
      · simpa [Kernel.close_fds, apart j' member taken] using opened j' (by simp [member]) taken
      · have other : n ≠ (conns j).fd := fun same => by simp [Kernel.close_fds, same] at isOpen
        obtain ⟨j', member, taken, owner⟩ := owned n (by simpa [Kernel.close_fds, other] using isOpen)
        rcases List.mem_cons.mp member with rfl | later
        · exact absurd owner.symm other
        · exact ⟨j', later, taken, owner⟩
    · refine foldClose_accounts conns distinct rest k restNodup accounts
        (fun j' member => opened j' (by simp [member])) (fun n isOpen => ?_)
      obtain ⟨j', member, taken, owner⟩ := owned n isOpen
      rcases List.mem_cons.mp member with rfl | later
      · exact absurd taken occupied
      · exact ⟨j', later, taken, owner⟩

/-- The shutdown path: after `free_connections` nothing is open, every connection ever accepted
was closed exactly once, and no `close` missed. -/
theorem Inv.shutdown {w : World} (inv : Inv w) (idle : w.events = []) (notAccepting : w.accepting = false) :
    Stopped w.shutdown := by
  have freed := foldClose_accounts w.connections inv.injective (List.finRange maxConnections)
    w.kernel (List.nodup_finRange _) inv.accounts (fun j _ taken => (inv.slots j taken).opened)
    (fun n isOpen => by
      obtain ⟨j, taken, owner⟩ := inv.owned n isOpen
      exact ⟨j, List.mem_finRange j, taken, owner⟩)
  rw [← freeConnections_eq, ← World.shutdown_kernel] at freed
  obtain ⟨accounts, closed⟩ := freed
  refine ⟨World.shutdown_running w, by rw [World.shutdown_events, World.shutdown_accepting]; exact ⟨idle, notAccepting⟩,
    closed, fun id => ?_, accounts.stray_eq⟩
  split_ifs with below
  · exact accounts.closed_once id below fun ⟨n, isOpen⟩ => Option.noConfusion ((closed n).symm.trans isOpen)
  · exact accounts.future_unclosed id (not_lt.mp below)

/-! ### Runs -/

theorem Inv.step {w w' : World} (inv : Inv w) (step : Step w w') : Inv w' ∨ Stopped w' := by
  cases step with
  | wait batch running idle notAccepting delivered =>
    exact .inl { inv with pending := delivered.2.1, pending_nodup := delivered.2.2.1 }
  | listen next notAccepting =>
    refine .inl { inv with pending := fun e member => inv.pending e (by simp [next, member]),
                           pending_nodup := ?_ }
    have nodup := inv.pending_nodup
    rwa [next] at nodup
  | accept fd o accepting valid fresh fits => exact .inl (inv.acceptConnection valid fresh o)
  | acceptEnd accepting => exact .inl { inv with }
  | client o next notAccepting fits => exact .inl (inv.client_step next fits)
  | shutdown running idle notAccepting => exact .inr (inv.shutdown idle notAccepting)

/-- Nothing follows a shutdown. -/
theorem Stopped.final {w w' : World} (stopped : Stopped w) : ¬Step w w' := by
  intro step
  cases step with
  | wait _ running => simp [stopped.halted] at running
  | listen next => simp [stopped.idle.1] at next
  | accept _ _ accepting => simp [stopped.idle.2] at accepting
  | acceptEnd accepting => simp [stopped.idle.2] at accepting
  | client _ next => simp [stopped.idle.1] at next
  | shutdown running => simp [stopped.halted] at running

/-- Every reachable state is a running one with the invariant, or a stopped one. -/
theorem reachable_inv {w : World} (reachable : Reachable w) : Inv w ∨ Stopped w := by
  induction reachable with
  | initial => exact .inl Inv.initial
  | step _ step ih =>
    rcases ih with inv | stopped
    · exact inv.step step
    · exact absurd step stopped.final

end EpollWebServer
