import EpollWebServer.Loop

/-!
**The read path against the request parser: what the terminator search reads.**

After each `recv`, the `EPOLLIN` branch calls `strstr (conn->buffer, "\r\n\r\n")`. That reads
the buffer up to its first NUL, not up to `buffer_used`. `recv` writes no NUL. Neither
`add_connection`, `remove_connection` nor the keep-alive reset clears the buffer. So the search
also reads whatever an earlier client or an earlier request left past the bytes of this one.

* `strstr_receive`: the search after a `recv` looks at this request's bytes, followed by the
  bytes an earlier request left past them.
* `onReadable_clean`: where nothing lies past them (`Connection.Clean`), the handler is the
  spec's request parser (`specParse`) over the request bytes. A slot is clean as
  `init_connections` leaves it, and a `recv` keeps it clean (`Connection.Clean.receive`). It
  stops being clean once `buffer_used` goes back to 0 over bytes still in the buffer: after a
  keep-alive reset, or when a client that sent anything, answered or not, is released and the
  slot goes to the next one.
* `staleBuffer_processes`: a run in which a second client's single byte `G` is processed as a
  whole request. The terminator the search finds is the first client's.
-/

namespace EpollWebServer

/-- Within bounds, `recv` splices its bytes into the buffer at `buffer_used`. -/
theorem Connection.receive_buffer {c : Connection} {bytes : List UInt8}
    (fits : c.bufferUsed + bytes.length ≤ bufferSize) :
    (c.receive bytes).buffer =
      c.buffer.take c.bufferUsed ++ bytes ++ c.buffer.drop (c.bufferUsed + bytes.length) :=
  overwrite_eq (by rw [c.length_buffer]; exact fits)

theorem Connection.length_request_append {c : Connection} {bytes : List UInt8}
    (fits : c.bufferUsed + bytes.length ≤ bufferSize) :
    (c.buffer.take c.bufferUsed ++ bytes).length = c.bufferUsed + bytes.length := by
  rw [List.length_append, List.length_take, c.length_buffer]; unfold bufferSize at *; omega

/-- The search after a `recv` of `bytes` into a slot: it looks at the request so far, then at
the bytes past it that an earlier request left, up to the first NUL. -/
theorem strstr_receive (c : Connection) (bytes : List UInt8)
    (fits : c.bufferUsed + bytes.length ≤ bufferSize) :
    strstr (c.receive bytes).buffer headerEnd = decide (headerEnd <:+:
      cstr (c.buffer.take c.bufferUsed ++ bytes ++ c.buffer.drop (c.bufferUsed + bytes.length))) := by
  rw [strstr, cstr_eq_self (by decide : ∀ x ∈ headerEnd, x ≠ 0), Connection.receive_buffer fits]

/-! ### Where the read path refines the spec's parser -/

/-- Modelled from the spec: the request parser's states. -/
inductive ParserState
  | accumulating
  | parsed
  | rejectedTooLarge
  deriving DecidableEq, Repr

/-- Modelled from the spec: the parser's state once it has accumulated the request bytes `F`.
It is `Parsed` when CR LF CR LF occurs anywhere in `F`. It is `Rejected(TooLarge)` when
`F` holds `input.capacity - 1` bytes without it. -/
def specParse (F : List UInt8) : ParserState :=
  if headerEnd <:+: F then .parsed
  else if bufferSize - 1 ≤ F.length then .rejectedTooLarge
  else .accumulating

/-- What the `EPOLLIN` handler does when the spec's parser drives it. `c` is the slot after the
`recv` and `F` its request bytes. The parsed request is answered from `F`, the rejected one
with the 413 literal, and an incomplete one is read on. -/
def parserStep (w : World) (i : Slot) (o : Outcome) (F : List UInt8) (c : Connection) :
    World × Bool :=
  match specParse F with
  | .parsed => w.changeToWriteMode i (c.terminate.store (buildResponse F o.collaborators)) o.ctlOk
  | .rejectedTooLarge =>
    w.changeToWriteMode i (c.store (errorReply response413 o.collaborators.strdupOk)) o.ctlOk
  | .accumulating => (w.setConnection i c, true)

/-- A slot whose bytes past `buffer_used` are all NUL, as `init_connections` left them: no
earlier client or request has written there. -/
def Connection.Clean (c : Connection) : Prop := ∀ x ∈ c.buffer.drop c.bufferUsed, x = 0

/-- A `recv` keeps a clean slot clean: it writes only below the new `buffer_used`. -/
theorem Connection.Clean.receive {c : Connection} (clean : c.Clean) {bytes : List UInt8}
    (fits : c.bufferUsed + bytes.length ≤ bufferSize) : (c.receive bytes).Clean := by
  intro x member
  rw [Connection.receive_buffer fits, Connection.receive_bufferUsed,
    List.drop_left' (Connection.length_request_append fits)] at member
  exact clean x (List.drop_subset_drop_left _ (Nat.le_add_right _ _) member)

/-- On a clean slot, the C string the search reads after a `recv` is the request bytes
themselves, when they hold no NUL and leave room. -/
theorem cstr_clean {c : Connection} (clean : c.Clean) {bytes : List UInt8}
    (inside : c.bufferUsed + bytes.length < bufferSize)
    (noNul : ∀ x ∈ c.buffer.take c.bufferUsed ++ bytes, x ≠ 0) :
    cstr (c.buffer.take c.bufferUsed ++ bytes ++ c.buffer.drop (c.bufferUsed + bytes.length)) =
      c.buffer.take c.bufferUsed ++ bytes := by
  obtain ⟨x, rest, tail⟩ := List.exists_cons_of_ne_nil (l := c.buffer.drop (c.bufferUsed + bytes.length))
    (by simp [c.length_buffer]; exact inside)
  have zero : x = 0 :=
    clean x (List.drop_subset_drop_left _ (Nat.le_add_right _ _) (by rw [tail]; exact List.mem_cons_self _ _))
  rw [tail, zero, cstr_append_zero, cstr_eq_self noNul]

/-- `process_http_request` reads the request bytes, whatever lies past them. -/
theorem processHttpRequest_receive (c : Connection) (env : Collaborators) {bytes : List UInt8}
    (inside : c.bufferUsed + bytes.length < bufferSize)
    (noNul : ∀ x ∈ c.buffer.take c.bufferUsed ++ bytes, x ≠ 0) :
    processHttpRequest (c.receive bytes) env =
      (c.receive bytes).terminate.store (buildResponse (c.buffer.take c.bufferUsed ++ bytes) env) := by
  unfold processHttpRequest
  rw [cstr_terminate _ inside, Connection.receive_buffer inside.le, Connection.receive_bufferUsed,
    List.take_left' (Connection.length_request_append inside.le), cstr_eq_self noNul]

/-- **On a clean slot the read path is the spec's parser.** Take a slot whose bytes past
`buffer_used` are NUL, as `init_connections` leaves every slot and as no later `recv` undoes, and
a `recv` that brings `bytes`, with the request bytes `F` free of NUL. The `EPOLLIN` handler does what the
parser's state over `F` says. It processes the request exactly when CR LF CR LF occurs in
`F`, with a response built from `F` alone. It installs the 413 literal exactly when `F` fills
the buffer without it. Otherwise it reads on, and the slot stays clean. -/
theorem onReadable_clean (w : World) (i : Slot) (o : Outcome) {bytes : List UInt8}
    (idle : (w.connections i).response = none) (received : o.recv = .received bytes)
    (nonempty : bytes ≠ []) (fits : (w.connections i).bufferUsed + bytes.length ≤ bufferSize - 1)
    (clean : (w.connections i).Clean)
    (noNul : ∀ x ∈ (w.connections i).buffer.take (w.connections i).bufferUsed ++ bytes, x ≠ 0) :
    onReadable w i o = parserStep w i o
        ((w.connections i).buffer.take (w.connections i).bufferUsed ++ bytes)
        ((w.connections i).receive bytes) ∧
      ((w.connections i).receive bytes).Clean := by
  have inside : (w.connections i).bufferUsed + bytes.length < bufferSize := by
    unfold bufferSize at *; omega
  have search : strstr ((w.connections i).receive bytes).buffer headerEnd =
      decide (headerEnd <:+: (w.connections i).buffer.take (w.connections i).bufferUsed ++ bytes) := by
    rw [strstr_receive _ _ inside.le, cstr_clean clean inside noNul]
  refine ⟨?_, clean.receive inside.le⟩
  unfold onReadable parserStep specParse
  simp only [idle, received, nonempty, search, Option.isSome_none, Bool.false_eq_true, if_false,
    decide_eq_true_eq, Connection.length_request_append inside.le, Connection.receive_bufferUsed]
  split_ifs <;> simp [processHttpRequest_receive _ _ inside noNul]

/-- The first client of slot 0, on descriptor 5, sends a whole request in one `recv`. -/
theorem firstRequest_parsed :
    let w : World :=
      { World.initial with connections := Function.update initConnections 0 (Connection.unused.install 5) }
    let o : Outcome :=
      ⟨.received (bytesOf "GET / HTTP/1.1\r\n\r\n"), ⟨fun _ => none, true, true⟩, .failed, true⟩
    onReadable w 0 o = parserStep w 0 o
        ((w.connections 0).buffer.take (w.connections 0).bufferUsed ++ bytesOf "GET / HTTP/1.1\r\n\r\n")
        ((w.connections 0).receive (bytesOf "GET / HTTP/1.1\r\n\r\n")) ∧
      ((w.connections 0).receive (bytesOf "GET / HTTP/1.1\r\n\r\n")).Clean := by
  intro w o
  have slot : w.connections 0 = Connection.unused.install 5 := by simp [w]
  exact onReadable_clean w 0 o (by simp [slot, Connection.install]) rfl (by decide)
    (by simp [slot, Connection.install, bufferSize]; decide)
    (by simp [slot, Connection.Clean, Connection.install, Connection.unused, List.mem_replicate])
    (by simp only [slot, Connection.install, List.take_zero, List.nil_append]; decide)

/-- **A request's terminator can come from an earlier client.** The first client of a fresh
loop sends `GET / HTTP/1.1` and an empty line on descriptor 5. Its 404 fails to send, so it is
released. The next client gets descriptor 5 and slot 0 back, and its first `recv` returns the
single byte `G`. No CR LF CR LF occurs in `G`. The search still finds the first client's, so the
handler runs `process_http_request` on `G`, stores the 501 reply and switches to `EPOLLOUT`. -/
theorem staleBuffer_processes :
    ∃ w, Reachable w ∧ (w.connections 0).fd = 5 ∧ (w.connections 0).bufferUsed = 0 ∧
      w.events = [.client 5 0 ⟨true, false, false, false⟩] ∧
      let o : Outcome := ⟨.received (bytesOf "G"), ⟨fun _ => none, true, true⟩, .failed, true⟩
      let w' := handleClient w 0 ⟨true, false, false, false⟩ o
      Step w { w' with events := [] } ∧ ¬headerEnd <:+: bytesOf "G" ∧
        (w'.connections 0).response = some response501 ∧
        w'.kernel.epoll 5 = some ⟨.epollout, 0⟩ := by
  let env : Collaborators := ⟨fun _ => none, true, true⟩
  let reading : Mask := ⟨true, false, false, false⟩
  -- the first client's 404 fails to send; the second gets descriptor 5 and slot 0 back
  obtain ⟨w, reachable, running, idle, notAccepting, slot, -, registered, -⟩ := reachable_secondClient
  have reached := Reachable.step reachable (.wait [.client 5 0 reading] running idle notAccepting
      ⟨by decide, by simp [Event.Delivered, reading, registered], by decide, by decide⟩)
  -- what the second client's slot holds: the first request's bytes, under descriptor 5
  have complete : strstr ((w.connections 0).receive (bytesOf "G")).buffer headerEnd = true := by
    rw [slot]; decide
  have answered : (processHttpRequest ((w.connections 0).receive (bytesOf "G")) env).response =
      some response501 := by rw [slot]; decide
  refine ⟨_, reached, by simp [slot], by simp [slot, Connection.install], rfl, ?_⟩
  intro o w'
  have processed : w' = _ := handleClient_processes _ (by simp [slot, Connection.install]) rfl
    (by decide) complete (by simp [slot, registered]) rfl
  refine ⟨.client o rfl notAccepting ⟨by simp [RecvResult.Fits, slot, Connection.install, bufferSize]; decide,
      trivial⟩, by decide, by simpa [processed] using answered, by simp [processed, slot]⟩

end EpollWebServer
