import EpollWebServer.Service

/-!
**A burst of clients in one turn of the accept loop.**

On the listener's event `main` calls `accept` until it fails, and settles each client at once:
`add_connection` puts it in the first free slot, and once no slot is free the 503 goes out on
it and it is closed. Admission control is synchronous, and no client waits in a queue.

* `freeSlots`: the free slots of the pool in index order, the order of `add_connection`'s scan.
  The first of them is the slot the scan picks (`firstFree_of_freeSlots`), and filling it
  leaves the others (`freeSlots_install`).
* `acceptBurst`: the accept loop over the descriptors `accept` returns, with its frame
  (`acceptBurst_fds_ne`, `acceptBurst_epoll_ne`, `acceptBurst_keeps`) and its run of the loop
  (`acceptBurst_run`).
* `acceptBurst_burst`: by induction over the burst, the `k`-th client goes into the `k`-th free
  slot while free slots last, each later one gets the 503 and is closed, and every other slot is
  left alone (`Burst`).
* `reachable_acceptsBurst`: the same from every idle state the loop reaches, with the
  listener's event before the burst and the failing `accept` after it. Each admitted client's
  slot is then ready for its first request.
-/

namespace EpollWebServer

/-! ### The free slots -/

/-- The free slots of the pool, in index order. -/
def freeSlots (conns : Pool) : List Slot :=
  (List.finRange maxConnections).filter fun j => decide ((conns j).fd < 0)

theorem mem_freeSlots {conns : Pool} {j : Slot} : j ∈ freeSlots conns ↔ (conns j).fd < 0 := by
  simp [freeSlots, List.mem_finRange]

theorem freeSlots_sorted (conns : Pool) : (freeSlots conns).Pairwise (· < ·) :=
  (List.pairwise_lt_finRange _).filter _

theorem freeSlots_nodup (conns : Pool) : (freeSlots conns).Nodup :=
  (List.nodup_finRange _).filter _

/-- The first free slot in index order is the one `add_connection`'s scan picks. -/
theorem firstFree_of_freeSlots {conns : Pool} {i : Slot} {rest : List Slot}
    (free : freeSlots conns = i :: rest) : firstFree conns 0 = some i := by
  have sorted := free ▸ freeSlots_sorted conns
  refine (firstFree_eq_some_iff conns 0 i).mpr
    ⟨Nat.zero_le _, mem_freeSlots.mp (free ▸ List.mem_cons_self _ _), fun m _ below => ?_⟩
  by_contra taken
  rcases List.mem_cons.mp (free ▸ mem_freeSlots.mpr (not_le.mp taken)) with same | later
  · exact lt_irrefl m (same ▸ below)
  · exact lt_asymm below (List.rel_of_pairwise_cons sorted later)

/-- Filling the first free slot leaves the others, in the same order. -/
theorem freeSlots_install {conns : Pool} {i : Slot} {rest : List Slot} (free : freeSlots conns = i :: rest)
    {fd : Int} (valid : 0 ≤ fd) : freeSlots (Function.update conns i ((conns i).install fd)) = rest := by
  have nodup := free ▸ freeSlots_nodup conns
  refine List.eq_of_perm_of_sorted ((List.perm_ext_iff_of_nodup (freeSlots_nodup _)
    (List.nodup_cons.mp nodup).2).mpr fun j => ?_) (freeSlots_sorted _)
    (List.pairwise_cons.mp (free ▸ freeSlots_sorted conns)).2
  rw [mem_freeSlots]
  by_cases here : j = i
  · subst here
    rw [Function.update_same, Connection.install_fd]
    exact iff_of_false (not_lt.mpr valid) (List.nodup_cons.mp nodup).1
  · rw [Function.update_noteq here, ← mem_freeSlots, free, List.mem_cons, or_iff_right here]

theorem freeSlots_eq_nil {conns : Pool} (full : freeSlots conns = []) (j : Slot) : 0 ≤ (conns j).fd :=
  not_lt.mp fun free => by simpa [full] using mem_freeSlots.mpr free

/-! ### One accept -/

/-- Every call succeeds: `set_nonblocking` and `epoll_ctl` return 0, and the 503's `send` takes the
whole message. -/
def AcceptOutcome.succeeds : AcceptOutcome := ⟨true, .accepted response503.length, true⟩

/-- On a full pool the accept loop sends the 503 on the new descriptor and closes it. -/
theorem acceptConnection_refused (w : World) (fd : Int) (full : ∀ j, 0 ≤ (w.connections j).fd) :
    acceptConnection w fd AcceptOutcome.succeeds =
      { w with kernel := ((w.kernel.accept fd).send fd response503).close fd } := by
  have none := (firstFree_eq_none_iff w.connections 0).mpr fun m _ => full m
  simp [acceptConnection, AcceptOutcome.succeeds, addConnection, none, SendResult.taken]

/-! ### The accept loop over a burst -/

/-- The accept loop's `accept`s returning `fds` in turn, each one settled as `succeeds` says. -/
def acceptBurst (w : World) : List Int → World
  | [] => w
  | fd :: rest => acceptBurst (acceptConnection w fd AcceptOutcome.succeeds) rest

theorem acceptBurst_fds_ne (w : World) {fds : List Int} {n : Int} (absent : n ∉ fds) :
    (acceptBurst w fds).kernel.fds n = w.kernel.fds n := by
  induction fds generalizing w with
  | nil => rfl
  | cons fd rest ih =>
    rw [List.mem_cons, not_or] at absent
    rw [acceptBurst, ih _ absent.2, acceptConnection_fds_ne _ _ absent.1]

theorem acceptBurst_epoll_ne (w : World) {fds : List Int} {n : Int} (absent : n ∉ fds) :
    (acceptBurst w fds).kernel.epoll n = w.kernel.epoll n := by
  induction fds generalizing w with
  | nil => rfl
  | cons fd rest ih =>
    rw [List.mem_cons, not_or] at absent
    rw [acceptBurst, ih _ absent.2, acceptConnection_epoll_ne _ _ absent.1]

/-- The burst keeps every connection accepted before it. -/
theorem acceptBurst_keeps (w : World) (fds : List Int) (id : Nat) (earlier : id < w.kernel.accepted) :
    Kernel.Keeps w.kernel (acceptBurst w fds).kernel id := by
  induction fds generalizing w with
  | nil => exact .refl _ _
  | cons fd rest ih =>
    have first := acceptConnection_keeps w fd AcceptOutcome.succeeds earlier
    exact first.trans (ih _ (earlier.trans_le first.accepted_le))

theorem acceptBurst_control (w : World) (fds : List Int) :
    (acceptBurst w fds).running = w.running ∧ (acceptBurst w fds).accepting = w.accepting ∧
      (acceptBurst w fds).events = w.events := by
  induction fds generalizing w with
  | nil => exact ⟨rfl, rfl, rfl⟩
  | cons fd rest ih =>
    obtain ⟨running, accepting, events⟩ := ih (acceptConnection w fd AcceptOutcome.succeeds)
    exact ⟨running.trans (acceptConnection_control w fd _).1,
      accepting.trans (acceptConnection_control w fd _).2, events.trans (acceptConnection_events w fd _)⟩

/-- The accept loop takes the burst's `accept`s one after another. -/
theorem acceptBurst_run {w : World} (accepting : w.accepting = true) {fds : List Int}
    (distinct : fds.Nodup) (valid : ∀ fd ∈ fds, 0 ≤ fd) (fresh : ∀ fd ∈ fds, w.kernel.fds fd = none) :
    Relation.ReflTransGen Step w (acceptBurst w fds) := by
  induction fds generalizing w with
  | nil => exact .refl
  | cons fd rest ih =>
    have step := Step.accept fd AcceptOutcome.succeeds accepting (valid fd (List.mem_cons_self _ _))
      (fresh fd (List.mem_cons_self _ _)) (le_refl _)
    refine .head step (ih ((acceptConnection_control w fd _).2.trans accepting)
      (List.nodup_cons.mp distinct).2 (fun n member => valid n (List.mem_cons_of_mem _ member))
      fun n member => ?_)
    rw [acceptConnection_fds_ne _ _ (ne_of_mem_of_not_mem member (List.nodup_cons.mp distinct).1)]
    exact fresh n (List.mem_cons_of_mem _ member)

/-- What a burst of `accept`s returning `fds` leaves in `w'`, from a pool `conns` whose free slots
in index order are `slots`, with `first` the number the kernel gives the next connection: the
`k`-th client in the `k`-th free slot, on connection `first + k`, registered for `EPOLLIN` and
with nothing sent, while free slots last; the 503 alone on every later client's connection, now
closed; and every slot no client took as it was. -/
structure Burst (conns : Pool) (first : Nat) (slots : List Slot) (fds : List Int) (w' : World) : Prop where
  admitted : ∀ k (inBurst : k < fds.length) (free : k < slots.length),
    w'.connections (slots.get ⟨k, free⟩) = (conns (slots.get ⟨k, free⟩)).install (fds.get ⟨k, inBurst⟩) ∧
      w'.kernel.fds (fds.get ⟨k, inBurst⟩) = some (first + k) ∧
      w'.kernel.epoll (fds.get ⟨k, inBurst⟩) = some ⟨.epollin, slots.get ⟨k, free⟩⟩ ∧
      w'.kernel.sent (first + k) = []
  refused : ∀ k, k < fds.length → slots.length ≤ k →
    w'.kernel.sent (first + k) = response503 ∧ Closed w'.kernel (first + k)
  others : ∀ j, j ∉ slots.take fds.length → w'.connections j = conns j

/-- A burst with no client. -/
theorem Burst.nil (w : World) (slots : List Slot) : Burst w.connections w.kernel.accepted slots [] w :=
  ⟨fun k inBurst => absurd inBurst (Nat.not_lt_zero k), fun k inBurst => absurd inBurst (Nat.not_lt_zero k),
    fun _ _ => rfl⟩

/-- A client turned away on a full pool, then the rest of the burst. -/
theorem Burst.refuse {conns : Pool} {first : Nat} {w' : World} {fd : Int} {rest : List Int}
    (later : Burst conns (first + 1) [] rest w') (sent : w'.kernel.sent first = response503)
    (closed : Closed w'.kernel first) : Burst conns first [] (fd :: rest) w' := by
  refine ⟨fun k _ free => absurd free (Nat.not_lt_zero k), fun k inBurst _ => ?_, fun j _ => later.others j (by simp)⟩
  cases k with
  | zero => exact ⟨sent, closed⟩
  | succ k =>
    have refused := later.refused k (Nat.lt_of_succ_lt_succ inBurst) (Nat.zero_le k)
    rwa [Nat.add_assoc, Nat.add_comm 1 k] at refused

/-- A client admitted into the first free slot `i`, then the rest of the burst. -/
theorem Burst.install {conns : Pool} {first : Nat} {w' : World} {fd : Int} {rest : List Int} {i : Slot}
    {free : List Slot} (later : Burst (Function.update conns i ((conns i).install fd)) (first + 1) free rest w')
    (outside : i ∉ free) (opened : w'.kernel.fds fd = some first)
    (registered : w'.kernel.epoll fd = some ⟨.epollin, i⟩) (silent : w'.kernel.sent first = []) :
    Burst conns first (i :: free) (fd :: rest) w' := by
  have same : ∀ j, j ≠ i → Function.update conns i ((conns i).install fd) j = conns j :=
    fun j other => Function.update_noteq other _ _
  refine ⟨fun k inBurst inFree => ?_, fun k inBurst full => ?_, fun j notTaken => ?_⟩
  · cases k with
    | zero =>
      refine ⟨?_, opened, registered, silent⟩
      show w'.connections i = (conns i).install fd
      rw [later.others i fun taken => outside (List.mem_of_mem_take taken), Function.update_same]
    | succ k =>
      have admitted := later.admitted k (Nat.lt_of_succ_lt_succ inBurst) (Nat.lt_of_succ_lt_succ inFree)
      rw [Nat.add_assoc, Nat.add_comm 1 k, same _ fun here => outside (here ▸ List.get_mem _ _ _)] at admitted
      exact admitted
  · cases k with
    | zero => exact absurd full (Nat.not_succ_le_zero _)
    | succ k =>
      have refused := later.refused k (Nat.lt_of_succ_lt_succ inBurst) (Nat.le_of_succ_le_succ full)
      rwa [Nat.add_assoc, Nat.add_comm 1 k] at refused
  · simp only [List.length_cons, List.take_succ_cons, List.mem_cons, not_or] at notTaken
    rw [later.others j notTaken.2, same j notTaken.1]

/-- **The accept loop over a burst.** From every state the loop reaches inside the accept loop,
`accept`s returning distinct descriptors that are not open settle the clients as `Burst` says. -/
theorem acceptBurst_burst {w : World} (reachable : Reachable w) (running : w.running = true)
    (accepting : w.accepting = true) {fds : List Int} (distinct : fds.Nodup) (valid : ∀ fd ∈ fds, 0 ≤ fd)
    (fresh : ∀ fd ∈ fds, w.kernel.fds fd = none) :
    Burst w.connections w.kernel.accepted (freeSlots w.connections) fds (acceptBurst w fds) := by
  induction fds generalizing w with
  | nil => exact Burst.nil w _
  | cons fd rest ih =>
    have inv := reachable.inv running
    have fdFresh := fresh fd (List.mem_cons_self _ _)
    have absent := (List.nodup_cons.mp distinct).1
    have later := ih (w := acceptConnection w fd AcceptOutcome.succeeds)
      (reachable.step (.accept fd _ accepting (valid fd (List.mem_cons_self _ _)) fdFresh (le_refl _)))
      ((acceptConnection_control w fd _).1.trans running) ((acceptConnection_control w fd _).2.trans accepting)
      (List.nodup_cons.mp distinct).2 (fun n member => valid n (List.mem_cons_of_mem _ member))
      fun n member => by
        rw [acceptConnection_fds_ne _ _ (ne_of_mem_of_not_mem member absent)]
        exact fresh n (List.mem_cons_of_mem _ member)
    have unsent := reachable.streams.unsent w.kernel.accepted le_rfl
    show Burst _ _ _ (fd :: rest) (acceptBurst (acceptConnection w fd AcceptOutcome.succeeds) rest)
    have kept := acceptBurst_keeps (acceptConnection w fd AcceptOutcome.succeeds) rest w.kernel.accepted
    cases slots : freeSlots w.connections with
    | nil =>
      have refused := acceptConnection_refused w fd (freeSlots_eq_nil slots)
      rw [refused] at later kept ⊢
      dsimp only at later kept
      simp only [Kernel.close_accepted, Kernel.send_accepted, Kernel.accept_accepted, slots] at later kept
      have kept := kept (Nat.lt_succ_self _)
      refine Burst.refuse later ?_ ((⟨by simp, fun n => ?_⟩ : Closed _ _).keeps kept)
      · rw [kept.sent_eq]
        simp [Kernel.send_sent_of_open (by simp : (w.kernel.accept fd).fds fd = some w.kernel.accepted),
          unsent]
      · by_cases here : n = fd
        · simp [Kernel.close_fds, here]
        · simp only [Kernel.close_fds, Kernel.send_fds, Kernel.accept_fds, Function.update_noteq here]
          exact fun opened => (inv.accounts.id_lt _ _ opened).false
    | cons i free =>
      have installed := acceptConnection_installs w (o := AcceptOutcome.succeeds) (firstFree_of_freeSlots slots)
        rfl (inv.unregistered fdFresh) rfl
      rw [installed] at later kept ⊢
      dsimp only at later kept
      rw [Kernel.accept_accepted, freeSlots_install slots (valid fd (List.mem_cons_self _ _))] at later
      refine Burst.install later (List.nodup_cons.mp (slots ▸ freeSlots_nodup w.connections)).1 ?_ ?_ ?_
      · rw [acceptBurst_fds_ne _ absent]
        simp
      · rw [acceptBurst_epoll_ne _ absent]
        simp
      · rw [(kept (by simp)).sent_eq]
        simpa using unsent

/-- **A burst of clients in one turn of the accept loop.** In every idle state the loop reaches,
take the listener's event, `accept`s that return distinct descriptors not open, each with
`set_nonblocking` and `epoll_ctl` succeeding and the 503's `send` taking the whole message, and
then the `accept` that fails. The `k`-th client goes into the `k`-th free slot in index order
while free slots last, on the `k`-th new connection, with nothing sent, and the slot is ready
for its first request. Every client after that gets exactly the 503 message and is closed. No
client is left waiting, and every slot no client took is as it was. -/
theorem reachable_acceptsBurst {w : World} (reachable : Reachable w) (idle : w.Idle) {fds : List Int}
    (distinct : fds.Nodup) (valid : ∀ fd ∈ fds, 0 ≤ fd) (fresh : ∀ fd ∈ fds, w.kernel.fds fd = none) :
    ∃ w', Relation.ReflTransGen Step w w' ∧ w'.Idle ∧
      (∀ k (inBurst : k < fds.length) (free : k < (freeSlots w.connections).length),
        (w'.connections ((freeSlots w.connections).get ⟨k, free⟩)).fd = fds.get ⟨k, inBurst⟩ ∧
          Ready w' ((freeSlots w.connections).get ⟨k, free⟩) (w.kernel.accepted + k) ∧
          w'.kernel.sent (w.kernel.accepted + k) = []) ∧
      (∀ k, k < fds.length → (freeSlots w.connections).length ≤ k →
        w'.kernel.sent (w.kernel.accepted + k) = response503 ∧ Closed w'.kernel (w.kernel.accepted + k)) ∧
      ∀ j, j ∉ (freeSlots w.connections).take fds.length → w'.connections j = w.connections j := by
  let u : World := { w with events := [], accepting := true }
  have listened : Relation.ReflTransGen Step w u := idle.listen
  have burst : Burst w.connections w.kernel.accepted (freeSlots w.connections) fds (acceptBurst u fds) :=
    acceptBurst_burst (reachable.run listened) idle.running rfl distinct valid fresh
  obtain ⟨running, accepting, events⟩ := acceptBurst_control u fds
  have done : World.Idle { acceptBurst u fds with accepting := false } := ⟨running.trans idle.running, events, rfl⟩
  refine ⟨_, (listened.trans (acceptBurst_run rfl distinct valid fresh)).tail (.acceptEnd accepting), done,
    fun k inBurst free => ?_, burst.refused, burst.others⟩
  obtain ⟨slot, opened, registered, silent⟩ := burst.admitted k inBurst free
  have fd : ((acceptBurst u fds).connections ((freeSlots w.connections).get ⟨k, free⟩)).fd =
      fds.get ⟨k, inBurst⟩ := by
    rw [slot]; rfl
  refine ⟨fd, ⟨done, ?_, ?_, ?_, ?_, ?_⟩, silent⟩
  · show 0 ≤ ((acceptBurst u fds).connections _).fd
    rw [fd]; exact valid _ (List.get_mem fds k inBurst)
  · show (acceptBurst u fds).kernel.fds ((acceptBurst u fds).connections _).fd = _
    rw [fd]; exact opened
  · show (acceptBurst u fds).kernel.epoll ((acceptBurst u fds).connections _).fd = _
    rw [fd]; exact registered
  · show ((acceptBurst u fds).connections _).response = none
    rw [slot]; rfl
  · show ((acceptBurst u fds).connections _).bufferUsed = 0
    rw [slot]; rfl

/-- A loop whose first `MAX_CONNECTIONS - 1` clients hold all slots but the last, and a burst of
two more: the first takes the last slot, the second gets the 503. -/
theorem lastSlot_burst : ∃ w, Reachable w ∧ w.Idle ∧
    let fds : List Int := [9999, 10000]
    fds.Nodup ∧ (∀ fd ∈ fds, 0 ≤ fd) ∧ (∀ fd ∈ fds, w.kernel.fds fd = none) ∧
    ∃ w', Relation.ReflTransGen Step w w' ∧ w'.Idle ∧
      (∀ k (inBurst : k < fds.length) (free : k < (freeSlots w.connections).length),
        (w'.connections ((freeSlots w.connections).get ⟨k, free⟩)).fd = fds.get ⟨k, inBurst⟩ ∧
          Ready w' ((freeSlots w.connections).get ⟨k, free⟩) (w.kernel.accepted + k) ∧
          w'.kernel.sent (w.kernel.accepted + k) = []) ∧
      (∀ k, k < fds.length → (freeSlots w.connections).length ≤ k →
        w'.kernel.sent (w.kernel.accepted + k) = response503 ∧ Closed w'.kernel (w.kernel.accepted + k)) ∧
      ∀ j, j ∉ (freeSlots w.connections).take fds.length → w'.connections j = w.connections j := by
  obtain ⟨w, reachable, idle, -, closed⟩ := reachable_filled (maxConnections - 1) (by decide)
  have distinct : ([9999, 10000] : List Int).Nodup := by decide
  have valid : ∀ fd ∈ ([9999, 10000] : List Int), 0 ≤ fd := by decide
  have fresh : ∀ fd ∈ ([9999, 10000] : List Int), w.kernel.fds fd = none := fun fd member =>
    closed fd (by rcases List.mem_pair.mp member with rfl | rfl <;> decide)
  exact ⟨w, reachable, idle, distinct, valid, fresh, reachable_acceptsBurst reachable idle distinct valid fresh⟩

end EpollWebServer
