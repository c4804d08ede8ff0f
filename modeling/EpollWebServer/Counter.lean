import EpollWebServer.Invariant

/-!
**`connection_count` against the pool.**

`main` keeps `connection_count` by hand: `++` after a successful `EPOLL_CTL_ADD`, and `--` next
to every `remove_connection` of the client branches. One path breaks the pairing. An event
with `EPOLLOUT` and `EPOLLERR` or `EPOLLHUP` whose `send_response` returns -1 releases the
connection and decrements the counter. Then the error check releases the already free slot
again and decrements again.

* `handleClient_releases_twice`: on that path the counter drops by two while one slot is
  freed.
* `connectionCount_drifts`: a run of the loop that ends with `connection_count = -1` and no
  connection at all.
* `countedRun_connectionCount`: the double release is the only source of drift. Along every run
  (`CountedRun`, which counts the double-release events), the counter is the number of occupied
  slots less that count. One lemma per kind of step says what it adds: a client event one
  exactly on the double-release path (`handleClient_uncounted`), every other step nothing
  (`Step.uncounted_eq`). Every run of the loop is a counted run (`Reachable.counted`).
* `reachable_connectionCount_le`: so the drift goes one way. In every reachable state the
  counter is at most the number of occupied slots.
-/

namespace EpollWebServer

/-- An `EPOLLOUT` event that also reports `EPOLLERR` or `EPOLLHUP`, on a slot whose response is
pending and whose `send` fails. `send_response` returns -1, so the slot is released and
`connection_count` decremented. The error check then releases it again and decrements again. -/
theorem handleClient_releases_twice (w : World) (i : Slot) {mask : Mask} (o : Outcome)
    (writable : mask.epollin = false ∧ mask.epollout = true)
    (hungUp : (mask.epollerr || mask.epollhup) = true)
    (pending : (w.connections i).response.isSome) (failed : o.send = .failed) :
    (handleClient w i mask o).connectionCount = w.connectionCount - 2 ∧
      (handleClient w i mask o).connections =
        Function.update w.connections i (w.connections i).release := by
  rw [handleClient_sendFails w i o writable pending failed]
  simp [checkErrors, hungUp, World.dropConnection]
  omega

/-! ### Where the drift comes from -/

/-- The occupied slots `connection_count` does not count. -/
def World.uncounted (w : World) : Int := (occupied w.connections).card - w.connectionCount

/-- Whether a client event takes the path that releases its slot twice: `EPOLLOUT` without
`EPOLLIN`, with `EPOLLERR` or `EPOLLHUP`, and `send_response` returning -1. -/
def releasesTwice (w : World) (i : Slot) (mask : Mask) (o : Outcome) : Bool :=
  !mask.epollin && mask.epollout && (mask.epollerr || mask.epollhup) &&
    decide ((sendResponse (w.connections i) i w.kernel o.send o.ctlOk).1 < 0)

namespace World

/-- `remove_connection (conn); connection_count--;` on an occupied slot counts the slot it
frees. -/
theorem uncounted_dropConnection_of_occupied (w : World) {i : Slot}
    (taken : 0 ≤ (w.connections i).fd) : (w.dropConnection i).uncounted = w.uncounted := by
  have fewer : (occupied (w.dropConnection i).connections).card + 1 = (occupied w.connections).card := by
    rw [dropConnection_connections, occupied_update, if_neg (by simp)]
    exact Finset.card_erase_add_one (by simpa [occupied] using taken)
  have count : (w.dropConnection i).connectionCount = w.connectionCount - 1 := rfl
  unfold uncounted
  omega

/-- On a free slot it frees nothing and still decrements. -/
theorem uncounted_dropConnection_of_free (w : World) {i : Slot} (free : (w.connections i).fd < 0) :
    (w.dropConnection i).uncounted = w.uncounted + 1 := by
  have same : occupied (w.dropConnection i).connections = occupied w.connections := by
    rw [dropConnection_connections, occupied_update_of_iff (by simp; omega)]
  have count : (w.dropConnection i).connectionCount = w.connectionCount - 1 := rfl
  unfold uncounted
  rw [same, count]
  ring

/-- A slot that keeps its descriptor leaves the count of uncounted slots alone. -/
theorem uncounted_setConnection (w : World) (i : Slot) {c : Connection}
    (sameFd : c.fd = (w.connections i).fd) : (w.setConnection i c).uncounted = w.uncounted := by
  unfold uncounted
  rw [setConnection_connections, occupied_update_of_iff (by rw [sameFd])]
  rfl

/-- Switching an occupied slot to write mode counts right; when it falls through to the error
check, the slot is still occupied. -/
theorem uncounted_changeToWriteMode (w : World) {i : Slot} {c : Connection}
    (sameFd : c.fd = (w.connections i).fd) (taken : 0 ≤ (w.connections i).fd) (ctlOk : Bool) :
    (w.changeToWriteMode i c ctlOk).1.uncounted = w.uncounted ∧
      ((w.changeToWriteMode i c ctlOk).2 = true →
        0 ≤ ((w.changeToWriteMode i c ctlOk).1.connections i).fd) := by
  have set := w.uncounted_setConnection i sameFd
  unfold changeToWriteMode
  split
  · exact ⟨set, fun _ => by simp [sameFd, taken]⟩
  · refine ⟨?_, by simp⟩
    rw [uncounted_dropConnection_of_occupied _ (by simp [sameFd, taken]), set]

end World

theorem checkErrors_uncounted (w : World) (i : Slot) (mask : Mask) :
    (checkErrors w i mask).uncounted =
      w.uncounted + if (mask.epollerr || mask.epollhup) && decide ((w.connections i).fd < 0) then 1 else 0 := by
  unfold checkErrors
  by_cases hungUp : (mask.epollerr || mask.epollhup) = true
  · by_cases free : (w.connections i).fd < 0
    · simp [hungUp, free, World.uncounted_dropConnection_of_free]
    · simp [hungUp, free, World.uncounted_dropConnection_of_occupied _ (not_lt.mp free)]
  · simp [hungUp]

/-- Every branch of the `EPOLLIN` handler on an occupied slot counts right. When it falls
through to the error check, the slot is still occupied. -/
theorem onReadable_uncounted (w : World) {i : Slot} (o : Outcome) (taken : 0 ≤ (w.connections i).fd) :
    (onReadable w i o).1.uncounted = w.uncounted ∧
      ((onReadable w i o).2 = true → 0 ≤ ((onReadable w i o).1.connections i).fd) := by
  have dropped := w.uncounted_dropConnection_of_occupied taken
  unfold onReadable
  split
  · exact ⟨rfl, by simp⟩
  split
  · exact ⟨rfl, by simp⟩
  · exact ⟨dropped, by simp⟩
  · split_ifs
    · exact ⟨dropped, by simp⟩
    · dsimp only
      split_ifs
      · exact w.uncounted_changeToWriteMode (by simp) taken o.ctlOk
      · exact w.uncounted_changeToWriteMode (by simp) taken o.ctlOk
      · exact ⟨w.uncounted_setConnection i (by simp), fun _ => by simp [taken]⟩

/-- The `EPOLLOUT` branch on an occupied slot counts right, and leaves the slot free exactly
when `send_response` returned -1. -/
theorem onWritable_uncounted (w : World) {i : Slot} (o : Outcome) (taken : 0 ≤ (w.connections i).fd) :
    (onWritable w i o).uncounted = w.uncounted ∧
      (((onWritable w i o).connections i).fd < 0 ↔
        (sendResponse (w.connections i) i w.kernel o.send o.ctlOk).1 < 0) := by
  have sameFd := (sendResponse_fd (w.connections i) i w.kernel o.send o.ctlOk).1
  have set := w.uncounted_setConnection i sameFd
  unfold onWritable
  dsimp only
  split
  · rename_i failed
    refine ⟨?_, by simp [failed]⟩
    rw [World.uncounted_dropConnection_of_occupied _ (by simp [sameFd, taken])]
    exact set
  · rename_i sent
    exact ⟨set, by simp [sameFd, sent, taken]⟩

/-- A client event on an occupied slot changes the count of uncounted slots only on the path
that releases the slot twice, and there by one. -/
theorem handleClient_uncounted (w : World) {i : Slot} (mask : Mask) (o : Outcome)
    (taken : 0 ≤ (w.connections i).fd) :
    (handleClient w i mask o).uncounted =
      w.uncounted + if releasesTwice w i mask o then 1 else 0 := by
  obtain ⟨readCount, readKeeps⟩ := onReadable_uncounted w o taken
  obtain ⟨writeCount, writeFrees⟩ := onWritable_uncounted w o taken
  by_cases readable : mask.epollin = true
  · have once : releasesTwice w i mask o = false := by simp [releasesTwice, readable]
    simp only [handleClient, readable, if_true, once, Bool.false_eq_true, if_false, add_zero]
    split
    · rename_i fallsThrough
      rw [checkErrors_uncounted, readCount]
      simp [not_lt.mpr (readKeeps fallsThrough)]
    · exact readCount
  · simp only [Bool.not_eq_true] at readable
    by_cases writable : mask.epollout = true
    · simp only [handleClient, readable, writable, Bool.false_eq_true, if_false, if_true]
      rw [checkErrors_uncounted, writeCount]
      simp [releasesTwice, readable, writable, writeFrees]
    · simp only [Bool.not_eq_true] at writable
      simp only [handleClient, readable, writable, Bool.false_eq_true, if_false]
      rw [checkErrors_uncounted]
      simp [releasesTwice, readable, writable, not_lt.mpr taken]

/-- The accept loop counts exactly the connections it keeps. -/
theorem acceptConnection_uncounted (w : World) {fd : Int} (valid : 0 ≤ fd) (o : AcceptOutcome) :
    (acceptConnection w fd o).uncounted = w.uncounted := by
  unfold acceptConnection
  dsimp only
  split_ifs
  · rfl
  split
  · rfl
  · rename_i i conns found
    obtain ⟨free, pool⟩ := addConnection_some (by rw [found] : (addConnection w.connections fd).1 = some i)
    rw [found] at pool
    subst pool
    have notMember : i ∉ occupied w.connections := by simpa [occupied] using free
    split
    · simp only [World.uncounted, occupied_update, if_pos (show 0 ≤ ((w.connections i).install fd).fd
        from valid), Finset.card_insert_of_not_mem notMember]
      push_cast
      ring
    · simp only [World.uncounted, removeConnection_fst, Function.update_same, Function.update_idem]
      rw [occupied_update_of_iff (by simp; omega)]

/-- The client event a step of a reachable state handles is on an occupied slot. -/
theorem Reachable.next_occupied {w : World} (reachable : Reachable w) {fd : Int} {i : Slot}
    {mask : Mask} {rest : List Event} (next : w.events = .client fd i mask :: rest) :
    0 ≤ (w.connections i).fd := by
  rcases reachable_inv reachable with inv | stopped
  · obtain ⟨fdEq, valid, -⟩ := inv.slot_of_delivered (inv.pending (.client fd i mask) (by simp [next]))
    exact fdEq ▸ valid
  · simp [stopped.idle.1] at next

/-! ### The drift over a run -/

@[simp] theorem World.initial_uncounted : World.initial.uncounted = 0 := by
  simp [World.uncounted, World.initial, occupied, initConnections, Connection.unused]

/-- A step is a client event, or one of the steps that handle none: `epoll_wait`, the
listener's event, a turn of the accept loop, or the shutdown. -/
theorem Step.client_or {w w' : World} (step : Step w w') :
    (∃ fd i mask rest o, w.events = .client fd i mask :: rest ∧ w.accepting = false ∧
      o.Fits (w.connections i) ∧ w' = { handleClient w i mask o with events := rest }) ∨
    ∀ fd i mask rest, w.events = .client fd i mask :: rest → w.accepting = true := by
  cases step with
  | client o next notAccepting fits => exact .inl ⟨_, _, _, _, o, next, notAccepting, fits, rfl⟩
  | wait _ _ idle => exact .inr fun _ _ _ _ next => by simp [idle] at next
  | listen next => exact .inr fun _ _ _ _ next' => by simp [next] at next'
  | accept _ _ accepting => exact .inr fun _ _ _ _ _ => accepting
  | acceptEnd accepting => exact .inr fun _ _ _ _ _ => accepting
  | shutdown _ idle => exact .inr fun _ _ _ _ next => by simp [idle] at next

/-- Every step that handles no client event leaves the number of uncounted slots as it was,
a turn of the accept loop included. -/
theorem Step.uncounted_eq {w w' : World} (step : Step w w')
    (notClient : ∀ fd i mask rest, w.events = .client fd i mask :: rest → w.accepting = true) :
    w'.uncounted = w.uncounted := by
  cases step with
  | accept fd o _ valid => exact acceptConnection_uncounted w valid o
  | client o next notAccepting => simp [notClient _ _ _ _ next] at notAccepting
  | shutdown => simp [World.uncounted]
  | _ => rfl

/-- A run of the loop from its start, with the number of its client events that took the path
that releases a slot twice (`releasesTwice`). Every other step counts nothing. -/
inductive CountedRun : World → Nat → Prop
  | initial : CountedRun World.initial 0
  | client {w : World} {n : Nat} {fd : Int} {i : Slot} {mask : Mask} {rest : List Event}
      (o : Outcome) (run : CountedRun w n) (next : w.events = .client fd i mask :: rest)
      (notAccepting : w.accepting = false) (fits : o.Fits (w.connections i)) :
      CountedRun { handleClient w i mask o with events := rest }
        (n + if releasesTwice w i mask o then 1 else 0)
  | other {w w' : World} {n : Nat} (run : CountedRun w n) (step : Step w w')
      (notClient : ∀ fd i mask rest, w.events = .client fd i mask :: rest → w.accepting = true) :
      CountedRun w' n

theorem CountedRun.reachable {w : World} {n : Nat} (run : CountedRun w n) : Reachable w := by
  induction run with
  | initial => exact .initial
  | client o _ next notAccepting fits ih => exact ih.step (.client o next notAccepting fits)
  | other _ step _ ih => exact ih.step step

/-- Every state the loop reaches ends a counted run. -/
theorem Reachable.counted {w : World} (reachable : Reachable w) : ∃ n, CountedRun w n := by
  induction reachable with
  | initial => exact ⟨0, .initial⟩
  | step _ step ih =>
    obtain ⟨n, run⟩ := ih
    rcases step.client_or with ⟨fd, i, mask, rest, o, next, notAccepting, fits, rfl⟩ | notClient
    · exact ⟨_, run.client o next notAccepting fits⟩
    · exact ⟨n, run.other step notClient⟩

/-- Along a counted run, the uncounted slots are the double-release events so far. -/
theorem CountedRun.uncounted {w : World} {n : Nat} (run : CountedRun w n) : w.uncounted = n := by
  induction run with
  | initial => exact World.initial_uncounted
  | @client w n fd i mask rest o run next _ _ ih =>
    change (handleClient w i mask o).uncounted = _
    rw [handleClient_uncounted w mask o (run.reachable.next_occupied next), ih]
    split_ifs <;> simp
  | other _ step notClient ih => rw [step.uncounted_eq notClient, ih]

/-- **The double release is the only source of drift.** Along every run of the loop,
`connection_count` is the number of occupied slots less the number of client events so far that
took the double-release path: `EPOLLOUT` with `EPOLLERR` or `EPOLLHUP` where `send_response`
returns -1. Every other client event, every turn of the accept loop, `epoll_wait`, the
listener's event and the shutdown keep the counter exactly as far behind the pool as it was. -/
theorem countedRun_connectionCount {w : World} {n : Nat} (run : CountedRun w n) :
    w.connectionCount = (occupied w.connections).card - n := by
  have counted := run.uncounted
  unfold World.uncounted at counted
  omega

/-! ### The run that drifts -/

/-- The first connection of a fresh loop, descriptor 5, has its 404 pending when the client
hangs up. The next event reports `EPOLLOUT | EPOLLHUP`, and its `send` fails. The event takes
the double-release path, and leaves no connection and `connection_count = -1`. -/
theorem reachable_hangUp : ∃ w o, Reachable w ∧ w.events = [.client 5 0 ⟨false, true, false, true⟩] ∧
    w.accepting = false ∧ o.Fits (w.connections 0) ∧
    releasesTwice w 0 ⟨false, true, false, true⟩ o = true ∧
    (handleClient w 0 ⟨false, true, false, true⟩ o).connectionCount = -1 ∧
    occupied (handleClient w 0 ⟨false, true, false, true⟩ o).connections = ∅ := by
  let env : Collaborators := ⟨fun _ => none, true, true⟩
  let hangUp : Mask := ⟨false, true, false, true⟩
  have served := reachable_firstRequest (by decide : (0 : Int) ≤ 5) (bytesOf "GET / HTTP/1.1\r\n\r\n")
    env (by decide) (by decide) (by decide)
  obtain ⟨w, hungUp, next, idle, pending, count, others⟩ : ∃ w, Reachable w ∧
      w.events = [.client 5 0 hangUp] ∧ w.accepting = false ∧ (w.connections 0).response.isSome ∧
      w.connectionCount = 1 ∧ ∀ j, j ≠ 0 → (w.connections j).fd < 0 :=
    ⟨_, .step served (.wait [.client 5 0 hangUp] rfl rfl rfl
        ⟨by decide, by simp [Event.Delivered, hangUp], by decide, by decide⟩), rfl, rfl,
      by simpa using buildResponse_response_isSome _ (rfl : env.strdupOk = true), rfl,
      fun j other => by simp [other, initConnections, Connection.unused]⟩
  let o : Outcome := ⟨.wouldBlock, env, .failed, true⟩
  obtain ⟨r, stored⟩ := Option.isSome_iff_exists.mp pending
  obtain ⟨dropped, pool⟩ := handleClient_releases_twice w 0 o
    (⟨rfl, rfl⟩ : hangUp.epollin = false ∧ hangUp.epollout = true) rfl pending rfl
  refine ⟨w, o, hungUp, next, idle, ⟨trivial, trivial⟩, by simp [releasesTwice, sendResponse, stored, o,
    hangUp], by simp [dropped, count], Finset.filter_eq_empty_iff.mpr fun j _ => ?_⟩
  by_cases here : j = 0
  · simp [pool, here]
  · simpa [pool, here] using others j here

/-- **`connection_count` goes negative.** Descriptor 5 is accepted into slot 0 and its request
gets a 404. The client then hangs up while the response is pending, and the event reports
`EPOLLOUT | EPOLLHUP` with a failing `send`. The loop ends up with `connection_count = -1` and
no connection. -/
theorem connectionCount_drifts :
    ∃ w, Reachable w ∧ w.connectionCount = -1 ∧ occupied w.connections = ∅ := by
  obtain ⟨w, o, reachable, next, notAccepting, fits, -, count, pool⟩ := reachable_hangUp
  exact ⟨_, reachable.step (.client o next notAccepting fits), count, pool⟩

/-- **`connection_count` never counts more connections than the pool holds.** Every path that
frees a slot decrements the counter, and only the accept loop that keeps a connection
increments it. So the drift of `connectionCount_drifts` goes one way: the counter can fall
behind the occupied slots, never ahead of them. -/
theorem reachable_connectionCount_le {w : World} (reachable : Reachable w) :
    w.connectionCount ≤ (occupied w.connections).card := by
  obtain ⟨n, run⟩ := reachable.counted
  have counted := run.uncounted
  unfold World.uncounted at counted
  omega

/-- The state after the hang-up, where the counter has fallen behind the empty pool. -/
theorem hangUp_connectionCount_le : ∃ w, Reachable w ∧ w.connectionCount = -1 ∧
    w.connectionCount ≤ (occupied w.connections).card := by
  obtain ⟨w, o, reachable, next, notAccepting, fits, -, count, -⟩ := reachable_hangUp
  have after := reachable.step (.client o next notAccepting fits)
  exact ⟨_, after, count, reachable_connectionCount_le after⟩

/-- The run to the hang-up, with its one double-release event. -/
theorem hangUp_counted : ∃ w, CountedRun w 1 ∧ w.connectionCount = (occupied w.connections).card - 1 := by
  obtain ⟨w, o, reachable, next, notAccepting, fits, -, count, pool⟩ := reachable_hangUp
  obtain ⟨n, run⟩ := (reachable.step (.client o next notAccepting fits)).counted
  have one : n = 1 := by
    have counted := run.uncounted
    simp only [World.uncounted, count, pool, Finset.card_empty] at counted
    omega
  subst one
  exact ⟨_, run, countedRun_connectionCount run⟩

end EpollWebServer
