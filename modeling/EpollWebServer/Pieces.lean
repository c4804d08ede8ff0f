import EpollWebServer.Service

/-!
**A first request in pieces: the read path accumulates, then answers.**

`recv` may bring a request in any number of pieces. Take a slot that no earlier request has
written to (`Connection.Clean`), as `init_connections` leaves every slot. The
`EPOLLIN` branch appends each piece behind the ones before, and reads on while CR LF CR LF does
not occur in what it has. The read event whose piece completes the request processes exactly
the request bytes, and the write event answers them.

* `Reading`: the slot holds the request bytes received so far, with nothing but NUL past them.
* `Reading.receive`: a read event whose piece does not complete the request keeps it `Reading`.
* `Reading.complete`: the read event whose piece completes it stores the reply built from the
  request bytes.
* `ready_answersPieces`: by induction over the pieces, a request that arrives in pieces is
  answered with exactly the response built from their concatenation.
-/

namespace EpollWebServer

/-- Slot `i` reads a request of connection `id` in an idle loop. Its descriptor is connection
`id`'s, registered for `EPOLLIN`, and it holds no response. The request bytes so far are `F`,
at the start of the buffer, with only NUL past them. -/
structure Reading (w : World) (i : Slot) (id : Nat) (F : List UInt8) : Prop where
  idle : w.Idle
  occupied : 0 ≤ (w.connections i).fd
  opened : w.kernel.fds (w.connections i).fd = some id
  reading : w.kernel.epoll (w.connections i).fd = some ⟨.epollin, i⟩
  unanswered : (w.connections i).response = none
  used : (w.connections i).bufferUsed = F.length
  received : (w.connections i).buffer.take F.length = F
  clean : (w.connections i).Clean

/-- A ready slot that no request has written to reads a request from its first byte. -/
theorem Ready.toReading {w : World} {i : Slot} {id : Nat} (ready : Ready w i id)
    (clean : (w.connections i).Clean) : Reading w i id [] :=
  ⟨ready.idle, ready.occupied, ready.opened, ready.reading, ready.unanswered, ready.fresh, rfl, clean⟩

/-- The terminator search after a `recv` of `piece` reads the request bytes and the piece. -/
theorem Reading.strstr_receive {w : World} {i : Slot} {id : Nat} {F : List UInt8}
    (reading : Reading w i id F) {piece : List UInt8} (inside : (F ++ piece).length < bufferSize)
    (noNul : ∀ x ∈ F ++ piece, x ≠ 0) :
    strstr ((w.connections i).receive piece).buffer headerEnd = decide (headerEnd <:+: F ++ piece) := by
  have fits : (w.connections i).bufferUsed + piece.length < bufferSize := by
    simpa [reading.used] using inside
  rw [EpollWebServer.strstr_receive _ _ fits.le, cstr_clean reading.clean fits
    (by rwa [reading.used, reading.received]), reading.used, reading.received]

/-- A read event whose piece leaves the request incomplete and the buffer not full: the slot
reads on, with the piece appended. -/
theorem Reading.receive {w : World} {i : Slot} {id : Nat} {F : List UInt8} (reading : Reading w i id F)
    {piece : List UInt8} (nonempty : piece ≠ []) (room : (F ++ piece).length < bufferSize - 1)
    (noNul : ∀ x ∈ F ++ piece, x ≠ 0) (incomplete : ¬headerEnd <:+: F ++ piece) (env : Collaborators) :
    ∃ w', Relation.ReflTransGen Step w w' ∧ Reading w' i id (F ++ piece) ∧
      (w'.connections i).fd = (w.connections i).fd ∧ w'.kernel.sent = w.kernel.sent := by
  have inside : (F ++ piece).length < bufferSize := by unfold bufferSize at *; omega
  have search := reading.strstr_receive inside noNul
  rw [decide_eq_false incomplete] at search
  have run := reading.idle.handle reading.reading ⟨true, false, false, false⟩ (fun _ => rfl)
    (fun never => absurd never Bool.false_ne_true) ⟨.received piece, env, .wouldBlock, true⟩
    ⟨by simp only [RecvResult.Fits, reading.used]; simp at room; unfold bufferSize at *; omega, trivial⟩
  rw [handleClient_keepsReading { w with events := [.client (w.connections i).fd i ⟨true, false, false, false⟩] }
    reading.unanswered rfl nonempty search
    (by simpa [reading.used] using room)] at run
  have fits : (w.connections i).bufferUsed + piece.length ≤ bufferSize := by
    rw [reading.used]; simp at inside; omega
  refine ⟨_, run, ⟨⟨reading.idle.running, rfl, reading.idle.notAccepting⟩, ?_, ?_, ?_, ?_, ?_, ?_, ?_⟩, ?_, rfl⟩
  all_goals simp only [World.setConnection, Function.update_same]
  · exact reading.occupied
  · exact reading.opened
  · exact reading.reading
  · exact reading.unanswered
  · simp [reading.used]
  · rw [Connection.receive_buffer fits, reading.used, reading.received]
    exact List.take_left' rfl
  · exact reading.clean.receive fits
  · rfl

/-- The read event whose piece completes the request: `process_http_request` answers the
request bytes, and the slot waits under `EPOLLOUT`. -/
theorem Reading.complete {w : World} {i : Slot} {id : Nat} {F : List UInt8} (reading : Reading w i id F)
    {piece : List UInt8} (nonempty : piece ≠ []) (fits : (F ++ piece).length ≤ bufferSize - 1)
    (noNul : ∀ x ∈ F ++ piece, x ≠ 0) (terminated : headerEnd <:+: F ++ piece) (env : Collaborators) :
    ∃ w', Relation.ReflTransGen Step w w' ∧ w'.Idle ∧
      w'.connections i = ((w.connections i).receive piece).terminate.store (buildResponse (F ++ piece) env) ∧
      w'.kernel.fds = w.kernel.fds ∧ w'.kernel.sent = w.kernel.sent ∧
      w'.kernel.epoll (w.connections i).fd = some ⟨.epollout, i⟩ := by
  have inside : (F ++ piece).length < bufferSize := by unfold bufferSize at *; omega
  have search := reading.strstr_receive inside noNul
  rw [decide_eq_true terminated] at search
  have run := reading.idle.handle reading.reading ⟨true, false, false, false⟩ (fun _ => rfl)
    (fun never => absurd never Bool.false_ne_true) ⟨.received piece, env, .wouldBlock, true⟩
    ⟨by simp only [RecvResult.Fits, reading.used]; simp at fits; unfold bufferSize at *; omega, trivial⟩
  rw [handleClient_processes { w with events := [.client (w.connections i).fd i ⟨true, false, false, false⟩] }
    reading.unanswered rfl nonempty search (by simp [reading.reading]) rfl,
    processHttpRequest_receive _ _ (by simpa [reading.used] using inside)
      (by rwa [reading.used, reading.received]), reading.used, reading.received] at run
  exact ⟨_, run, ⟨reading.idle.running, rfl, reading.idle.notAccepting⟩, by simp [World.setConnection],
    rfl, rfl, by simp⟩

/-- From a slot reading `F`, the pieces that follow are answered: each read event but the last
appends its piece, the last completes the request, and the write event sends the response built
from `F` and all the pieces. -/
theorem Reading.answers {i : Slot} {id : Nat} (env : Collaborators) :
    ∀ (pieces : List (List UInt8)) {w : World} {F : List UInt8}, Reading w i id F →
      (∀ p ∈ pieces, p ≠ []) → (∀ x ∈ F ++ pieces.flatten, x ≠ 0) →
      (F ++ pieces.flatten).length ≤ bufferSize - 1 →
      (∀ k < pieces.length, ¬headerEnd <:+: F ++ (pieces.take k).flatten) →
      headerEnd <:+: F ++ pieces.flatten → pieces ≠ [] →
      ∃ w', Relation.ReflTransGen Step w w' ∧
        w'.kernel.sent id = w.kernel.sent id ++ (buildResponse (F ++ pieces.flatten) env).response.getD [] ∧
        if (buildResponse (F ++ pieces.flatten) env).keepAlive then Ready w' i id
        else w'.kernel.fds (w.connections i).fd = none
  | [], _, _, _, _, _, _, _, _, given => absurd rfl given
  | [piece], w, F, reading, nonempty, noNul, fits, _, terminated, _ => by
    simp only [List.flatten_cons, List.flatten_nil, List.append_nil] at noNul fits terminated ⊢
    obtain ⟨w₁, read, idle, slot, fdsEq, sentEq, writing⟩ :=
      reading.complete (nonempty piece (List.mem_singleton_self _)) fits noNul terminated env
    obtain ⟨w', run, sent, after⟩ := idle.answer slot (by simpa using reading.occupied)
      (by simpa [fdsEq] using reading.opened) (by simpa using writing) (fun _ => buildResponse_length _ _)
      buildResponse_keepAlive_response
    refine ⟨w', read.trans run, by rw [sent, sentEq], ?_⟩
    split_ifs at after ⊢
    · exact after.1
    · simpa using after
  | piece :: next :: rest, w, F, reading, nonempty, noNul, fits, incomplete, terminated, _ => by
    have room : (F ++ piece).length < bufferSize - 1 := by
      have more : 0 < next.length := List.length_pos.mpr (nonempty next (by simp))
      simp only [List.flatten_cons, List.length_append] at fits ⊢
      omega
    obtain ⟨w₁, run, reading₁, sameFd, sentEq⟩ := reading.receive (nonempty piece (by simp)) room
      (fun x member => noNul x (by simp at member ⊢; tauto))
      (by simpa using incomplete 1 (by simp)) env
    obtain ⟨w', run', sent, after⟩ := Reading.answers env (next :: rest) reading₁
      (fun p member => nonempty p (List.mem_cons_of_mem _ member))
      (by simpa using noNul) (by simpa using fits)
      (fun k below => by simpa using incomplete (k + 1) (by simp at below ⊢; omega))
      (by simpa using terminated) (List.cons_ne_nil _ _)
    refine ⟨w', run.trans run', by simp [sent, sentEq], ?_⟩
    simpa [sameFd] using after

end EpollWebServer
