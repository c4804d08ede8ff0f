import EpollWebServer.Bytes
import Mathlib.Logic.Function.Basic

/-!
**The constants of `high_perf_webserver.c`, and the kernel its system calls act on.**

The server's view of the operating system is small. A table of open client descriptors. An
epoll set of registrations, each holding an interest and the `data.ptr` of a pool slot. The
bytes each socket has taken from `send`. `accept`, `close`, `send` and `epoll_ctl` change these.
A `close` drops the descriptor's registration, because the server never duplicates a
descriptor, so the last reference goes with it.

The descriptor table maps a descriptor number to the connection it refers to, numbered by the
`accept` call that returned it. Numbers are reused by the kernel, connections never are. The
ghost counters `closes` and `stray` count every `close` per connection, and every `close` of a
number that is not open. They make "closed exactly once" something a theorem can state.

* `close_of_open`, `close_fds`, `close_epoll_of_open`: closing an open descriptor forgets it,
  unregisters it and counts one close of its connection; nothing else changes.
* `epollAdd_eq_some`, `epollMod_eq_some`: what a successful `epoll_ctl` did.
-/

namespace EpollWebServer

/-! ### The constants -/

/-- `MAX_EVENTS`: the length of the `events` array handed to `epoll_wait`. -/
def maxEvents : Nat := 1024

/-- `MAX_CONNECTIONS`: the number of slots of the connection pool. -/
def maxConnections : Nat := 10000

/-- `BUFFER_SIZE`: the length of a connection's request buffer. -/
def bufferSize : Nat := 8192

/-- `WEB_ROOT`. -/
def webRoot : List UInt8 := bytesOf "./www"

/-- A slot of the pool: `&connections[i]` is the `data.ptr` of the slot's registration. -/
abbrev Slot := Fin maxConnections

instance : NeZero maxConnections := ⟨Nat.succ_ne_zero 9999⟩

/-! ### The kernel -/

/-- The interest of a client registration: the server registers `EPOLLIN | EPOLLET` or
`EPOLLOUT | EPOLLET`, never both. -/
inductive Interest
  | epollin
  | epollout
  deriving DecidableEq, Repr

/-- A client registration of the epoll set: its interest and its `data.ptr`. -/
structure Registration where
  events : Interest
  ptr : Slot
  deriving DecidableEq, Repr

/-- The part of the kernel the server's system calls read and change. -/
structure Kernel where
  /-- The open client descriptors, each with the connection (the `accept` call) it refers to. -/
  fds : Int → Option Nat
  /-- The client registrations of the epoll set, by descriptor. -/
  epoll : Int → Option Registration
  /-- How many connections `accept` has returned. -/
  accepted : Nat
  /-- Ghost: how often the descriptor of each connection has been closed. -/
  closes : Nat → Nat
  /-- Ghost: calls of `close` on a descriptor that was not open. -/
  stray : Nat
  /-- The bytes the socket of each connection has taken from `send`. -/
  sent : Nat → List UInt8

namespace Kernel

/-- `accept` returning `fd`, a descriptor that is not open: a new connection. -/
def accept (k : Kernel) (fd : Int) : Kernel :=
  { k with fds := Function.update k.fds fd (some k.accepted), accepted := k.accepted + 1 }

/-- `close (fd)`: the descriptor stops being open and leaves the epoll set. -/
def close (k : Kernel) (fd : Int) : Kernel :=
  match k.fds fd with
  | some id =>
    { k with fds := Function.update k.fds fd none, epoll := Function.update k.epoll fd none,
             closes := Function.update k.closes id (k.closes id + 1) }
  | none => { k with stray := k.stray + 1 }

/-- `send (fd, ...)` where the socket took `bytes`. -/
def send (k : Kernel) (fd : Int) (bytes : List UInt8) : Kernel :=
  match k.fds fd with
  | some id => { k with sent := Function.update k.sent id (k.sent id ++ bytes) }
  | none => k

/-- `epoll_ctl (epoll_fd, EPOLL_CTL_ADD, fd, &ev)`: it succeeds (`some`) on an open descriptor
that is not registered yet, when the kernel has the memory (`ok`). -/
def epollAdd (k : Kernel) (fd : Int) (r : Registration) (ok : Bool) : Option Kernel :=
  if ok ∧ (k.fds fd).isSome ∧ k.epoll fd = none then
    some { k with epoll := Function.update k.epoll fd (some r) }
  else none

/-- `epoll_ctl (epoll_fd, EPOLL_CTL_MOD, fd, &ev)`: it succeeds on a registered descriptor,
when the kernel has the memory (`ok`). -/
def epollMod (k : Kernel) (fd : Int) (r : Registration) (ok : Bool) : Option Kernel :=
  if ok ∧ (k.epoll fd).isSome then some { k with epoll := Function.update k.epoll fd (some r) }
  else none

variable {k k' : Kernel} {fd : Int} {id : Nat} {bytes : List UInt8}

@[simp] theorem accept_fds : (k.accept fd).fds = Function.update k.fds fd (some k.accepted) := rfl
@[simp] theorem accept_epoll : (k.accept fd).epoll = k.epoll := rfl
@[simp] theorem accept_accepted : (k.accept fd).accepted = k.accepted + 1 := rfl
@[simp] theorem accept_closes : (k.accept fd).closes = k.closes := rfl
@[simp] theorem accept_stray : (k.accept fd).stray = k.stray := rfl

theorem close_of_open (opened : k.fds fd = some id) :
    k.close fd = { k with fds := Function.update k.fds fd none,
                          epoll := Function.update k.epoll fd none,
                          closes := Function.update k.closes id (k.closes id + 1) } := by
  simp [close, opened]

@[simp] theorem close_accepted : (k.close fd).accepted = k.accepted := by
  unfold close; split <;> rfl

@[simp] theorem close_sent : (k.close fd).sent = k.sent := by
  unfold close; split <;> rfl

@[simp] theorem accept_sent : (k.accept fd).sent = k.sent := rfl

theorem close_fds : (k.close fd).fds = Function.update k.fds fd none := by
  unfold close
  split
  · rfl
  · rename_i closed
    funext m
    by_cases same : m = fd
    · subst same; simp [closed]
    · simp [same]

/-- A `close` opens nothing. -/
theorem close_fds_of {n : Int} (opened : (k.close fd).fds n = some id) : k.fds n = some id := by
  by_cases here : n = fd
  · simp [close_fds, here] at opened
  · simpa [close_fds, here] using opened

theorem close_epoll_of_open (opened : (k.fds fd).isSome) :
    (k.close fd).epoll = Function.update k.epoll fd none := by
  obtain ⟨id, opened⟩ := Option.isSome_iff_exists.mp opened
  simp [close_of_open opened]

/-- A `close` changes no other descriptor's registration. -/
theorem close_epoll_ne {n : Int} (other : n ≠ fd) : (k.close fd).epoll n = k.epoll n := by
  unfold close; split <;> simp [other]

theorem close_stray_of_open (opened : (k.fds fd).isSome) : (k.close fd).stray = k.stray := by
  obtain ⟨id, opened⟩ := Option.isSome_iff_exists.mp opened
  simp [close_of_open opened]

@[simp] theorem send_fds : (k.send fd bytes).fds = k.fds := by unfold send; split <;> rfl
@[simp] theorem send_epoll : (k.send fd bytes).epoll = k.epoll := by unfold send; split <;> rfl
@[simp] theorem send_accepted : (k.send fd bytes).accepted = k.accepted := by
  unfold send; split <;> rfl
@[simp] theorem send_closes : (k.send fd bytes).closes = k.closes := by unfold send; split <;> rfl
@[simp] theorem send_stray : (k.send fd bytes).stray = k.stray := by unfold send; split <;> rfl

theorem epollAdd_eq_some {r : Registration} {ok : Bool} (added : k.epollAdd fd r ok = some k') :
    (k.fds fd).isSome ∧ k.epoll fd = none ∧
      k' = { k with epoll := Function.update k.epoll fd (some r) } := by
  unfold epollAdd at added
  split at added
  · rename_i guard
    exact ⟨guard.2.1, guard.2.2, (Option.some.inj added).symm⟩
  · cases added

theorem epollMod_eq_some {r : Registration} {ok : Bool} (modified : k.epollMod fd r ok = some k') :
    (k.epoll fd).isSome ∧ k' = { k with epoll := Function.update k.epoll fd (some r) } := by
  unfold epollMod at modified
  split at modified
  · rename_i guard
    exact ⟨guard.2, (Option.some.inj modified).symm⟩
  · cases modified

end Kernel

end EpollWebServer
