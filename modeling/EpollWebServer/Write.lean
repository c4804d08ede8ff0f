import EpollWebServer.Request

/-!
**The write scheduler: `send_response`, and a response pushed out over successive events.**

Each write-readiness event makes one `send_response` call, and so one `send` of the bytes not
yet sent. The socket may take all of them, some, none, or the call may fail outright.
`response_sent` advances by what the socket took. Once it reaches `response_size` the
response is freed. A keep-alive connection then gets `buffer_used = 0` and is switched back
to `EPOLLIN`; any other connection is handed back with -1 for the caller to release.

* `sendResponse_wouldBlock`: a would-block `send` changes nothing.
* `sendResponse_complete`: what the completing call does, for keep-alive and for close.
* `sendResponse_sending`: one call keeps `Sending`: the socket holds exactly the response's
  first `response_sent` bytes after what it held before, `response_sent` never passes the
  length, and the response is freed only once every byte is out.
* `sendEvents_sending`: the same over any sequence of `send` outcomes.
* `sendEvents_ends`: **where a run of write events ends.** `delivery` says it from the outcomes
  alone, as the spec does: the bytes the sends took up to the first error, and whether the run
  waits for more, stopped on an error, or completed. Each call does its part: a would-block
  `send` nothing, a partial one advances `response_sent` alone (`sendResponse_short`), and the
  one that reaches the size frees the response and re-arms or releases the connection
  (`sendResponse_ends`).
-/

namespace EpollWebServer

/-- The outcome of one `send` call. -/
inductive SendResult
  /-- `send` returned `count`: the socket took that many bytes. -/
  | accepted (count : Nat)
  /-- -1 with `errno` `EAGAIN` or `EWOULDBLOCK`. -/
  | wouldBlock
  /-- -1 with another `errno`, other than `EPIPE`. The server passes flags 0 to `send` and
  leaves `SIGPIPE` at its default action, so a `send` on a connection the peer has reset raises
  `SIGPIPE` and kills the process, with every connection. That outcome is not modelled. -/
  | failed
  deriving DecidableEq, Repr

/-- The socket takes no more bytes than it is offered. -/
def SendResult.Fits (offered : Nat) : SendResult → Prop
  | accepted count => count ≤ offered
  | _ => True

/-- The bytes of the offered buffer the socket took. -/
def SendResult.taken (buffer : List UInt8) : SendResult → List UInt8
  | accepted count => buffer.take count
  | _ => []

/-- `send_response (conn, epoll_fd)` for the connection in slot `i`: what it returns, and the
connection and kernel after. `ctlOk` says whether the kernel has the memory for the
`EPOLL_CTL_MOD` of a keep-alive completion. -/
def sendResponse (c : Connection) (i : Slot) (k : Kernel) (result : SendResult) (ctlOk : Bool) :
    Int × Connection × Kernel :=
  match c.response with
  | none => (-1, c, k)
  | some response =>
    let remaining := c.responseSize - c.responseSent
    match result with
    | .wouldBlock => (0, c, k)
    | .failed => (-1, c, k)
    | .accepted count =>
      let k := k.send c.fd (((response.drop c.responseSent).take remaining).take count)
      let c := { c with responseSent := c.responseSent + count }
      if c.responseSize ≤ c.responseSent then
        let c := { c with response := none, responseSize := 0 }
        if c.keepAlive then
          let c := { c with bufferUsed := 0 }
          match k.epollMod c.fd ⟨.epollin, i⟩ ctlOk with
          | some k => (0, c, k)
          | none => (-1, c, k)
        else (-1, c, k)
      else (0, c, k)

/-- A would-block `send` leaves the connection and the kernel as they were. -/
theorem sendResponse_wouldBlock {c : Connection} {r : List UInt8} (pending : c.response = some r)
    (i : Slot) (k : Kernel) (ctlOk : Bool) :
    sendResponse c i k .wouldBlock ctlOk = (0, c, k) := by
  simp [sendResponse, pending]

/-- The fields of the connection `send_response` never changes. -/
theorem sendResponse_fd (c : Connection) (i : Slot) (k : Kernel) (result : SendResult)
    (ctlOk : Bool) : (sendResponse c i k result ctlOk).2.1.fd = c.fd ∧
      (sendResponse c i k result ctlOk).2.1.buffer = c.buffer ∧
      (sendResponse c i k result ctlOk).2.1.keepAlive = c.keepAlive := by
  unfold sendResponse
  repeat' (first | split | dsimp only)
  all_goals simp

/-! ### A response in flight -/

/-- The response `r` of a connection is being sent on connection `id` of the kernel, whose
socket held `before` when the response was installed: the socket now holds the first
`response_sent` bytes of `r` after `before`. Once the response is freed, all of it is out. -/
structure Sending (before r : List UInt8) (id : Nat) (c : Connection) (k : Kernel) : Prop where
  opened : k.fds c.fd = some id
  sent_le : c.responseSent ≤ r.length
  socket : k.sent id = before ++ r.take c.responseSent
  pending_or_done : (c.response = some r ∧ c.responseSize = r.length) ∨
    (c.response = none ∧ c.responseSent = r.length)

theorem Sending.size {before r : List UInt8} {id : Nat} {c : Connection} {k : Kernel}
    (sending : Sending before r id c k) (pending : c.response = some r) :
    c.responseSize = r.length := by
  rcases sending.pending_or_done with ⟨-, size⟩ | ⟨none, -⟩
  · exact size
  · simp [pending] at none

theorem Sending.within {before r : List UInt8} {id : Nat} {c : Connection} {k : Kernel}
    (sending : Sending before r id c k) (pending : c.response = some r) :
    c.responseSent ≤ c.responseSize :=
  sending.size pending ▸ sending.sent_le

theorem Kernel.send_sent_of_open {k : Kernel} {fd : Int} {id : Nat} (opened : k.fds fd = some id)
    (bytes : List UInt8) : (k.send fd bytes).sent id = k.sent id ++ bytes := by
  simp [Kernel.send, opened]

theorem Kernel.epollMod_sent {k k' : Kernel} {fd : Int} {r : Registration} {ok : Bool}
    (modified : k.epollMod fd r ok = some k') : k'.sent = k.sent ∧ k'.fds = k.fds := by
  obtain ⟨-, rfl⟩ := Kernel.epollMod_eq_some modified
  exact ⟨rfl, rfl⟩

/-- What the socket takes from one `send` of the unsent part: the next `count` bytes. -/
theorem take_offered {r : List UInt8} {sent size count : Nat} (fits : count ≤ size - sent) :
    ((r.drop sent).take (size - sent)).take count = (r.drop sent).take count := by
  rw [List.take_take, Nat.min_eq_left fits]

/-- The call that sends the last byte: it frees the response; a keep-alive connection gets
`buffer_used = 0` and, when `epoll_ctl` succeeds, the interest `EPOLLIN` and the return value
0; any other connection gets -1, for the caller to release. -/
theorem sendResponse_complete {c : Connection} {r : List UInt8} (pending : c.response = some r)
    (i : Slot) (k : Kernel) (ctlOk : Bool) {count : Nat}
    (last : c.responseSize ≤ c.responseSent + count) :
    let outcome := sendResponse c i k (.accepted count) ctlOk
    outcome.2.1.response = none ∧ outcome.2.1.responseSent = c.responseSent + count ∧
      (c.keepAlive = true → outcome.2.1.bufferUsed = 0 ∧
        ((outcome.1 = 0 ∧ outcome.2.2.epoll c.fd = some ⟨.epollin, i⟩) ∨ outcome.1 = -1)) ∧
      (c.keepAlive = false → outcome.1 = -1) := by
  simp only [sendResponse, pending, if_pos last]
  cases keep : c.keepAlive
  · simp
  · simp only [if_true, true_implies, Bool.true_eq_false, false_implies, and_true]
    split
    · rename_i k' modified
      obtain ⟨-, rfl⟩ := Kernel.epollMod_eq_some modified
      simp
    · simp

/-- The call that completes a response: a keep-alive connection whose descriptor is registered is
re-armed for `EPOLLIN` with 0 when `epoll_ctl` has the memory, and gets -1 when it has not; any
other connection gets -1. -/
theorem sendResponse_rearm {c : Connection} {r : List UInt8} (pending : c.response = some r)
    (i : Slot) (k : Kernel) (ctlOk : Bool) {count : Nat}
    (last : c.responseSize ≤ c.responseSent + count) :
    (c.keepAlive = true → (k.epoll c.fd).isSome → ctlOk = true →
      (sendResponse c i k (.accepted count) ctlOk).1 = 0 ∧
        (sendResponse c i k (.accepted count) ctlOk).2.2.epoll c.fd = some ⟨.epollin, i⟩ ∧
        (sendResponse c i k (.accepted count) ctlOk).2.1.bufferUsed = 0) ∧
      (c.keepAlive = true → ctlOk = false → (sendResponse c i k (.accepted count) ctlOk).1 = -1) ∧
      (c.keepAlive = false → (sendResponse c i k (.accepted count) ctlOk).1 = -1) := by
  refine ⟨fun keep registered ok => ?_, fun keep failed => ?_,
    (sendResponse_complete pending i k ctlOk last).2.2.2⟩
  · simp [sendResponse, pending, last, keep, ok, Kernel.epollMod, registered]
  · simp [sendResponse, pending, last, keep, failed, Kernel.epollMod]

/-- One `send_response` call on a response in flight keeps it in flight, with the bytes the
socket took appended in order. -/
theorem sendResponse_sending {before r : List UInt8} {id : Nat} {c : Connection} {k : Kernel}
    (sending : Sending before r id c k) (pending : c.response = some r) (i : Slot)
    (result : SendResult) (ctlOk : Bool) (fits : result.Fits (c.responseSize - c.responseSent)) :
    Sending before r id (sendResponse c i k result ctlOk).2.1
      (sendResponse c i k result ctlOk).2.2 := by
  have size := sending.size pending
  cases result with
  | wouldBlock => simpa [sendResponse, pending] using sending
  | failed => simpa [sendResponse, pending] using sending
  | accepted count =>
    simp only [SendResult.Fits] at fits
    have socket : (k.send c.fd (((r.drop c.responseSent).take (c.responseSize - c.responseSent)).take
        count)).sent id = before ++ r.take (c.responseSent + count) := by
      rw [Kernel.send_sent_of_open sending.opened, take_offered fits, sending.socket,
        List.append_assoc, ← List.take_add]
    have bound : c.responseSent + count ≤ r.length := by
      have := sending.sent_le
      omega
    simp only [sendResponse, pending]
    split
    · rename_i last
      have whole : c.responseSent + count = r.length := by omega
      split
      · split
        · rename_i k' modified
          obtain ⟨sentSame, fdsSame⟩ := Kernel.epollMod_sent modified
          exact ⟨by simpa [fdsSame] using sending.opened, bound, by rw [sentSame, socket],
            .inr ⟨rfl, whole⟩⟩
        · exact ⟨by simpa using sending.opened, bound, socket, .inr ⟨rfl, whole⟩⟩
      · exact ⟨by simpa using sending.opened, bound, socket, .inr ⟨rfl, whole⟩⟩
    · exact ⟨by simpa using sending.opened, bound, socket, .inl ⟨rfl, size⟩⟩

/-! ### Successive write-readiness events -/

/-- `send_response` called once per write-readiness event, with the outcome of each `send` and
of each `epoll_ctl`, until a call returns -1 or completes the response. -/
def sendEvents (c : Connection) (i : Slot) (k : Kernel) :
    List (SendResult × Bool) → Int × Connection × Kernel
  | [] => (0, c, k)
  | (result, ctlOk) :: rest =>
    let outcome := sendResponse c i k result ctlOk
    if outcome.1 = 0 ∧ outcome.2.1.response.isSome then sendEvents outcome.2.1 i outcome.2.2 rest
    else outcome

/-- The kernel takes no more than it is offered at any `send` of the run. -/
def SendsFit (c : Connection) (i : Slot) (k : Kernel) : List (SendResult × Bool) → Prop
  | [] => True
  | (result, ctlOk) :: rest =>
    result.Fits (c.responseSize - c.responseSent) ∧
      SendsFit (sendResponse c i k result ctlOk).2.1 i (sendResponse c i k result ctlOk).2.2 rest

/-- Over any sequence of `send` outcomes, a response stays in flight: the socket holds exactly
its first `response_sent` bytes after what it held before, `response_sent` never passes the
length, and the response is freed only when all of it is out. -/
theorem sendEvents_sending {before r : List UInt8} {id : Nat} {c : Connection} {k : Kernel}
    (sending : Sending before r id c k) (i : Slot) (outcomes : List (SendResult × Bool))
    (fit : SendsFit c i k outcomes) :
    Sending before r id (sendEvents c i k outcomes).2.1 (sendEvents c i k outcomes).2.2 := by
  induction outcomes generalizing c k with
  | nil => exact sending
  | cons head rest ih =>
    obtain ⟨result, ctlOk⟩ := head
    obtain ⟨fits, fitRest⟩ := fit
    rcases sending.pending_or_done with ⟨pending, -⟩ | ⟨done, -⟩
    · have next := sendResponse_sending sending pending i result ctlOk fits
      simp only [sendEvents]
      split
      · exact ih next fitRest
      · exact next
    · simp only [sendEvents, sendResponse, done]
      exact sending

/-- How a run of write events on a response in flight ends: still waiting for the next event,
stopped by a `send` error, or complete, with the `epoll_ctl` answer of the completing call. -/
inductive Ending
  | waiting
  | failed
  | completed (ctlOk : Bool)
  deriving DecidableEq, Repr

/-- Specification: of `remaining` unsent bytes, the sends take their counts in turn, until one
fails or the counts reach `remaining`. The bytes taken, and how the run ends. -/
def delivery (remaining : Nat) : List (SendResult × Bool) → Nat × Ending
  | [] => (0, .waiting)
  | (.wouldBlock, _) :: rest => delivery remaining rest
  | (.failed, _) :: _ => (0, .failed)
  | (.accepted count, ctlOk) :: rest =>
    if remaining ≤ count then (count, .completed ctlOk)
    else (count + (delivery (remaining - count) rest).1, (delivery (remaining - count) rest).2)

/-- What a run of write events on connection `c`, with the kernel `k` at its start, owes the
spec once the sends took `taken` bytes and the run ended as `ending`. A waiting run returns 0
and a stopped one -1; both leave the connection as it was but for `response_sent`, advanced by
`taken`. A completed run reached the response's size: the response is freed, and a keep-alive
connection gets `buffer_used = 0` and, when `epoll_ctl` has the memory for a registered
descriptor, 0 and the interest `EPOLLIN`, else -1. Any other connection gets -1. -/
def Ends (c : Connection) (i : Slot) (k : Kernel) (taken : Nat) :
    Ending → Int × Connection × Kernel → Prop
  | .waiting, outcome =>
    outcome.1 = 0 ∧ outcome.2.1 = { c with responseSent := c.responseSent + taken }
  | .failed, outcome =>
    outcome.1 = -1 ∧ outcome.2.1 = { c with responseSent := c.responseSent + taken }
  | .completed ctlOk, outcome =>
    c.responseSent + taken = c.responseSize ∧ outcome.2.1.response = none ∧
      outcome.2.1.responseSent = c.responseSize ∧
      (c.keepAlive = true → outcome.2.1.bufferUsed = 0 ∧
        (ctlOk = true → (k.epoll c.fd).isSome →
          outcome.1 = 0 ∧ outcome.2.2.epoll c.fd = some ⟨.epollin, i⟩) ∧
        (ctlOk = false → outcome.1 = -1)) ∧
      (c.keepAlive = false → outcome.1 = -1)

/-- A call whose `send` leaves bytes unsent returns 0 and advances `response_sent` alone. -/
theorem sendResponse_short {c : Connection} {r : List UInt8} (pending : c.response = some r)
    (i : Slot) (k : Kernel) (ctlOk : Bool) {count : Nat}
    (short : ¬c.responseSize ≤ c.responseSent + count) :
    sendResponse c i k (.accepted count) ctlOk = (0, { c with responseSent := c.responseSent + count },
      k.send c.fd (((r.drop c.responseSent).take (c.responseSize - c.responseSent)).take count)) := by
  simp [sendResponse, pending, short]

/-- The call that sends the last byte ends the run as the spec asks of a completed one. -/
theorem sendResponse_ends {c : Connection} {r : List UInt8} (pending : c.response = some r)
    (within : c.responseSent ≤ c.responseSize) (i : Slot) (k : Kernel) (ctlOk : Bool) {count : Nat}
    (fits : count ≤ c.responseSize - c.responseSent) (last : c.responseSize - c.responseSent ≤ count) :
    Ends c i k count (.completed ctlOk) (sendResponse c i k (.accepted count) ctlOk) := by
  have reaches : c.responseSize ≤ c.responseSent + count := by omega
  obtain ⟨freed, sent, kept, closing⟩ := sendResponse_complete pending i k ctlOk reaches
  obtain ⟨rearmed, failed, -⟩ := sendResponse_rearm pending i k ctlOk reaches
  exact ⟨by omega, freed, by omega, fun keep => ⟨(kept keep).1,
    fun ok registered => ⟨(rearmed keep registered ok).1, (rearmed keep registered ok).2.1⟩,
    failed keep⟩, closing⟩

/-- A run that goes on after a partial send ends, from the call before, as it ends from the
call after, with the bytes of that send added. -/
theorem Ends.advance {c : Connection} {i : Slot} {k k' : Kernel} {count taken : Nat} {ending : Ending}
    {outcome : Int × Connection × Kernel} (registered : k'.epoll = k.epoll)
    (ends : Ends { c with responseSent := c.responseSent + count } i k' taken ending outcome) :
    Ends c i k (count + taken) ending outcome := by
  cases ending with
  | waiting => simpa [Ends, Nat.add_assoc] using ends
  | failed => simpa [Ends, Nat.add_assoc] using ends
  | completed ctlOk =>
    obtain ⟨reaches, freed, sent, kept, closing⟩ := ends
    exact ⟨by simp only at reaches; omega, freed, sent, by simpa [registered] using kept, closing⟩

/-- **A run of write events ends as the spec says.** For any sequence of `send` outcomes, each
taking at most what it is offered, the run of `send_response` calls ends as `delivery`
predicts from the outcomes alone. -/
theorem sendEvents_ends {r : List UInt8} {c : Connection} (pending : c.response = some r)
    (within : c.responseSent ≤ c.responseSize) (i : Slot) (k : Kernel) (outcomes : List (SendResult × Bool)) (fit : SendsFit c i k outcomes) :
    Ends c i k (delivery (c.responseSize - c.responseSent) outcomes).1
      (delivery (c.responseSize - c.responseSent) outcomes).2 (sendEvents c i k outcomes) := by
  induction outcomes generalizing c k with
  | nil => exact ⟨rfl, rfl⟩
  | cons head rest ih =>
    obtain ⟨result, ctlOk⟩ := head
    obtain ⟨fits, fitRest⟩ := fit
    cases result with
    | wouldBlock =>
      rw [sendResponse_wouldBlock pending] at fitRest
      simp only [sendEvents, sendResponse_wouldBlock pending, delivery]
      rw [if_pos ⟨trivial, by simp [pending]⟩]
      exact ih pending within k fitRest
    | failed =>
      have stop : sendEvents c i k ((.failed, ctlOk) :: rest) = (-1, c, k) := by
        simp [sendEvents, sendResponse, pending]
      rw [stop]
      exact ⟨rfl, rfl⟩
    | accepted count =>
      simp only [SendResult.Fits] at fits
      by_cases last : c.responseSize - c.responseSent ≤ count
      · have ends := sendResponse_ends pending within i k ctlOk fits last
        simp only [sendEvents, delivery, if_pos last]
        rw [if_neg (by simp [ends.2.1])]
        exact ends
      · have short : ¬c.responseSize ≤ c.responseSent + count := by omega
        rw [sendResponse_short pending i k ctlOk short] at fitRest
        have later := ih (c := { c with responseSent := c.responseSent + count }) pending
          (by simp only; omega) _ fitRest
        simp only [sendEvents, sendResponse_short pending i k ctlOk short, delivery, if_neg last,
          Nat.sub_sub]
        rw [if_pos ⟨trivial, by simp [pending]⟩]
        exact later.advance Kernel.send_epoll

/-- **The write scheduler delivers a response whole.** Take a response in flight on an open
connection, whatever has been sent of it so far, and any sequence of `send` outcomes (each
taking at most what it is offered), one per write-readiness event. The socket then holds the
response's first `response_sent` bytes, in order, after what it held when the response was
installed, and `response_sent` never passes the length. The run ends as `delivery` says from
the outcomes alone: `response_sent` has grown by the counts the sends took, up to the first
error. While the counts stay short of the size the call returns 0, or -1 after an error, with
nothing else of the connection changed. Once they reach it the response is freed: a keep-alive
connection gets `buffer_used = 0` and, when `epoll_ctl` has the memory, 0 and the interest
`EPOLLIN` (-1 when it has not); any other connection gets -1, so that the caller releases it.
A would-block outcome changes nothing. -/
theorem sendEvents_delivers {before r : List UInt8} {id : Nat} {c : Connection} {k : Kernel}
    (sending : Sending before r id c k) (pending : c.response = some r) (i : Slot)
    (outcomes : List (SendResult × Bool)) (fit : SendsFit c i k outcomes) :
    Sending before r id (sendEvents c i k outcomes).2.1 (sendEvents c i k outcomes).2.2 ∧
      Ends c i k (delivery (c.responseSize - c.responseSent) outcomes).1
        (delivery (c.responseSize - c.responseSent) outcomes).2 (sendEvents c i k outcomes) ∧
      ∀ ctlOk, sendResponse c i k .wouldBlock ctlOk = (0, c, k) :=
  ⟨sendEvents_sending sending i outcomes fit, sendEvents_ends pending (sending.within pending) i k outcomes fit,
    sendResponse_wouldBlock pending i k⟩

/-- A three-byte response of a keep-alive connection on descriptor 5, registered for `EPOLLOUT`,
sent as one byte, a would-block, then two bytes. -/
theorem sendEvents_delivers_threeBytes :
    let c : Connection := { Connection.unused with
      fd := 5, response := some [1, 2, 3], responseSize := 3, keepAlive := true }
    let k : Kernel := ⟨fun n => if n = 5 then some 0 else none,
      fun n => if n = 5 then some ⟨.epollout, 0⟩ else none, 1, fun _ => 0, 0, fun _ => []⟩
    let outcomes : List (SendResult × Bool) :=
      [(.accepted 1, true), (.wouldBlock, true), (.accepted 2, true)]
    Sending [] [1, 2, 3] 0 c k ∧ c.response = some [1, 2, 3] ∧ SendsFit c 0 k outcomes ∧
      (Sending [] [1, 2, 3] 0 (sendEvents c 0 k outcomes).2.1 (sendEvents c 0 k outcomes).2.2 ∧
        Ends c 0 k (delivery (c.responseSize - c.responseSent) outcomes).1
          (delivery (c.responseSize - c.responseSent) outcomes).2 (sendEvents c 0 k outcomes) ∧
        ∀ ctlOk, sendResponse c 0 k .wouldBlock ctlOk = (0, c, k)) := by
  intro c k outcomes
  have sending : Sending [] [1, 2, 3] 0 c k := ⟨rfl, by decide, rfl, .inl ⟨rfl, rfl⟩⟩
  have fit : SendsFit c 0 k outcomes := by
    simp [outcomes, SendsFit, SendResult.Fits, sendResponse, c, Connection.unused]
  exact ⟨sending, rfl, fit, sendEvents_delivers sending rfl 0 outcomes fit⟩

/-! ### The keep-alive contract -/

end EpollWebServer
