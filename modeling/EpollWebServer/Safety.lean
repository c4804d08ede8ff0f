import EpollWebServer.Invariant

/-!
**What every state of a running loop guarantees to the read path, the write path and the
descriptors.**

Both results read off `reachable_inv`. A running state is never a stopped one, so it has `Inv`.

* `reachable_slotsSafe`: every occupied slot's buffer ends in a NUL that `recv` never reaches.
  A response stays within its size and waits under `EPOLLOUT`, and `EPOLLIN` means no response
  and room left. So the next read event always finds the "already processing" guard false,
  asks `recv` for at least one byte, and searches and terminates inside the buffer.
* `reachable_descriptorsOwned`: occupied slots hold distinct open descriptors, and the
  registrations are exactly theirs, tagged with their slot. Free slots are reset. Every
  accepted connection is closed at most once, exactly once when it is no longer open, and
  never by a `close` of a closed descriptor. After `free_connections` nothing is open.
-/

namespace EpollWebServer

/-! ### Small consequences of the invariant -/

/-- The C string in a buffer that ends in NUL stops before the last byte. -/
theorem BufferOk.cstr_length_le {c : Connection} (ok : BufferOk c) :
    (cstr c.buffer).length ≤ bufferSize - 1 := by
  obtain ⟨inside, last⟩ := List.getElem?_eq_some_iff.mp ok.last_nul
  rw [← List.take_append_drop (bufferSize - 1) c.buffer, List.drop_eq_getElem_cons inside, last,
    cstr_append_zero]
  exact (cstr_prefix_self _).length_le.trans (List.length_take_le _ _)

namespace Accounts

variable {k : Kernel}

/-- No connection is closed twice. -/
theorem closes_le_one (ok : Accounts k) (id : Nat) : k.closes id ≤ 1 := by
  by_cases below : id < k.accepted
  · by_cases gone : ∃ n, k.fds n = some id
    · obtain ⟨n, opened⟩ := gone
      rw [ok.open_unclosed n id opened]; omega
    · rw [ok.closed_once id below gone]
  · rw [ok.future_unclosed id (not_lt.mp below)]; omega

/-- An accepted connection has been closed exactly when it is no longer open. -/
theorem closes_eq_one_iff (ok : Accounts k) {id : Nat} (below : id < k.accepted) :
    k.closes id = 1 ↔ ¬∃ n, k.fds n = some id := by
  refine ⟨fun closed ⟨n, opened⟩ => by simp [ok.open_unclosed n id opened] at closed,
    ok.closed_once id below⟩

end Accounts

/-- A running state that can be reached has the invariant. -/
theorem Reachable.inv {w : World} (reachable : Reachable w) (running : w.running = true) : Inv w :=
  (reachable_inv reachable).resolve_right fun stopped => by simp [stopped.halted] at running

/-! ### The read and write paths -/

/-- What the read and write paths rely on in a running state. Every occupied slot's buffer
and response are in shape and agree with its registration. The next read event finds no
response, room for at least one byte, and a NUL before the end of the buffer whatever `recv`
stores. -/
structure SlotsSafe (w : World) : Prop where
  used_le : ∀ i, 0 ≤ (w.connections i).fd → (w.connections i).bufferUsed ≤ bufferSize - 1
  last_nul : ∀ i, 0 ≤ (w.connections i).fd → (w.connections i).buffer[bufferSize - 1]? = some 0
  writing : ∀ i r, 0 ≤ (w.connections i).fd → (w.connections i).response = some r →
    (w.connections i).responseSent ≤ (w.connections i).responseSize ∧
      w.kernel.epoll (w.connections i).fd = some ⟨.epollout, i⟩
  reading : ∀ i, 0 ≤ (w.connections i).fd →
    w.kernel.epoll (w.connections i).fd = some ⟨.epollin, i⟩ →
      (w.connections i).response = none ∧ (w.connections i).bufferUsed < bufferSize - 1
  /-- The next event reads: the guard is false, `recv` asks for at least one byte, and after it
  the NUL write at `buffer_used` and the search for CR LF CR LF stay inside the buffer. -/
  next_read : ∀ fd i mask rest, w.events = .client fd i mask :: rest → mask.epollin = true →
    (w.connections i).response = none ∧ 0 < bufferSize - (w.connections i).bufferUsed - 1 ∧
      ∀ bytes : List UInt8, bytes.length ≤ bufferSize - (w.connections i).bufferUsed - 1 →
        ((w.connections i).receive bytes).bufferUsed < bufferSize ∧
          (cstr ((w.connections i).receive bytes).buffer).length < bufferSize

/-- **Every running state the loop reaches is safe for the read and write paths.** -/
theorem reachable_slotsSafe {w : World} (reachable : Reachable w) (running : w.running = true) :
    SlotsSafe w := by
  have inv := reachable.inv running
  refine ⟨fun i _ => (inv.buffers i).used_le, fun i _ => (inv.buffers i).last_nul,
    fun i r taken stored => ?_, fun i taken => (inv.slots i taken).reading,
    fun fd i mask rest next readable => ?_⟩
  · obtain ⟨-, within, writing⟩ := (inv.slots i taken).writing r stored
    exact ⟨within, writing⟩
  · obtain ⟨fdEq, valid, r, registered, ptr, input, -⟩ :=
      inv.slot_of_delivered (inv.pending (.client fd i mask) (by simp [next]))
    have reading : w.kernel.epoll (w.connections i).fd = some ⟨.epollin, i⟩ := by
      rw [fdEq, registered, ← ptr, ← input readable]
    obtain ⟨none, room⟩ := (inv.slots i (fdEq ▸ valid)).reading reading
    refine ⟨none, by omega, fun bytes fits => ?_⟩
    have received := (inv.buffers i).receive fits
    exact ⟨by have := received.used_le; unfold bufferSize at *; omega,
      by have := received.cstr_length_le; unfold bufferSize at *; omega⟩

/-- The first connection of a fresh loop, with the first byte of its 404 sent and the rest
pending. -/
theorem firstPartial_slotsSafe : ∃ w, Reachable w ∧ w.running = true ∧ 0 ≤ (w.connections 0).fd ∧
    (w.connections 0).response = some response404 ∧ (w.connections 0).responseSent = 1 ∧
    SlotsSafe w := by
  obtain ⟨w, reachable, running, -, -, fd, -, -, stored, sent, -⟩ := reachable_firstPartial 1 (by decide)
  exact ⟨w, reachable, running, by rw [fd]; decide, stored, sent, reachable_slotsSafe reachable running⟩

/-! ### Descriptors -/

/-- The descriptor facts of a running state, and of the state `free_connections` leaves when
the loop shuts down from it. -/
structure DescriptorsOwned (w : World) : Prop where
  distinct : ∀ i j, 0 ≤ (w.connections i).fd → (w.connections i).fd = (w.connections j).fd → i = j
  opened : ∀ i, 0 ≤ (w.connections i).fd → (w.kernel.fds (w.connections i).fd).isSome
  registered : ∀ i, 0 ≤ (w.connections i).fd →
    ∃ ev, w.kernel.epoll (w.connections i).fd = some ⟨ev, i⟩
  registrations : ∀ n r, w.kernel.epoll n = some r →
    0 ≤ (w.connections r.ptr).fd ∧ (w.connections r.ptr).fd = n
  /-- Every pending client event is handled on the slot that owns its descriptor. -/
  events : ∀ fd i mask, Event.client fd i mask ∈ w.events → 0 ≤ fd ∧ (w.connections i).fd = fd
  free : ∀ i, (w.connections i).fd < 0 → (w.connections i).fd = -1 ∧
    (w.connections i).response = none ∧ (w.connections i).responseSize = 0 ∧
      (w.connections i).responseSent = 0
  /-- No descriptor is left open once its slot is freed. -/
  owned : ∀ n, (w.kernel.fds n).isSome → ∃ i, 0 ≤ (w.connections i).fd ∧ (w.connections i).fd = n
  closed_at_most_once : ∀ id, w.kernel.closes id ≤ 1
  closed_once : ∀ id, id < w.kernel.accepted →
    (w.kernel.closes id = 1 ↔ ¬∃ n, w.kernel.fds n = some id)
  no_stray_close : w.kernel.stray = 0
  shutdown : w.events = [] → w.accepting = false →
    (∀ n, w.shutdown.kernel.fds n = none) ∧
      (∀ id, w.shutdown.kernel.closes id = if id < w.shutdown.kernel.accepted then 1 else 0) ∧
      w.shutdown.kernel.stray = 0

/-- **Every running state the loop reaches owns its descriptors exactly, and shuts down with
every accepted connection closed once.** -/
theorem reachable_descriptorsOwned {w : World} (reachable : Reachable w)
    (running : w.running = true) : DescriptorsOwned w := by
  have inv := reachable.inv running
  refine ⟨inv.injective, fun i taken => (inv.slots i taken).opened,
    fun i taken => (inv.slots i taken).registered, fun n r registered => ?_,
    fun fd i mask member => ?_, fun i free => ?_, inv.owned, inv.accounts.closes_le_one,
    fun id below => inv.accounts.closes_eq_one_iff below, inv.accounts.stray_eq,
    fun idle notAccepting => ?_⟩
  · obtain ⟨isOpen, owner⟩ := inv.registrations n r registered
    obtain ⟨j, taken, ownerJ⟩ := inv.owned n isOpen
    exact ⟨by rw [owner, ← ownerJ]; exact taken, owner⟩
  · obtain ⟨fdEq, valid, -⟩ := inv.slot_of_delivered (inv.pending _ member)
    exact ⟨valid, fdEq⟩
  · obtain ⟨fdEq, response, size, sent⟩ := inv.free i free
    exact ⟨fdEq, response, size, sent⟩
  · obtain ⟨-, -, closed, closedOnce, stray⟩ := inv.shutdown idle notAccepting
    exact ⟨closed, closedOnce, stray⟩

/-- Descriptor 5, closed once with the first client of a fresh loop and then returned by
`accept` for the second, which holds slot 0. -/
theorem secondClient_descriptorsOwned : ∃ w, Reachable w ∧ w.running = true ∧
    (w.connections 0).fd = 5 ∧ w.kernel.fds 5 = some 1 ∧ w.kernel.epoll 5 = some ⟨.epollin, 0⟩ ∧
    w.kernel.closes 0 = 1 ∧ DescriptorsOwned w := by
  obtain ⟨w, reachable, running, -, -, slot, opened, registered, once⟩ := reachable_secondClient
  exact ⟨w, reachable, running, by simp [slot], opened, registered, once,
    reachable_descriptorsOwned reachable running⟩

end EpollWebServer
