import EpollWebServer.Kernel
import Mathlib.Data.Fintype.Card
import Mathlib.Data.Fintype.Fin
import Mathlib.Data.List.FinRange

/-!
**The connection pool: `connection_t`, `add_connection`, `remove_connection`, `free_connections`.**

The pool is an array of `MAX_CONNECTIONS` slots. A slot is occupied when its `fd` is not
negative. `add_connection` takes the first free slot, scanning upward as its `for` loop does,
and `remove_connection` closes the descriptor and resets the slot. Neither touches the request
buffer. A slot keeps whatever an earlier client left there, and the read path has to live with
that (`ReadPath`).

* `firstFree_eq_some_iff`, `firstFree_eq_none_iff`: the scan finds the first free slot, and
  finds none only in a full pool.
* `addConnection_full`, `addConnection_some`: `NULL` exactly on a full pool, which it leaves
  alone. Otherwise a slot that was free is filled and no other slot changes.
* `removeConnection_fst`: `remove_connection` resets only its own slot.
* `card_occupied_le`: the pool never holds more than `MAX_CONNECTIONS` connections.
* `occupied_update`: how one slot's new contents change the occupied slots.
-/

namespace EpollWebServer

/-! ### Connections -/

/-- `connection_t`. The request buffer is a `char[BUFFER_SIZE]`: its length is part of the
record. -/
structure Connection where
  fd : Int
  buffer : List UInt8
  bufferUsed : Nat
  responseSent : Nat
  response : Option (List UInt8)
  responseSize : Nat
  keepAlive : Bool
  length_buffer : buffer.length = bufferSize

/-- A slot as `init_connections` leaves it: zeroed by `calloc`, with `fd = -1`. -/
def Connection.unused : Connection where
  fd := -1
  buffer := List.replicate bufferSize 0
  bufferUsed := 0
  responseSent := 0
  response := none
  responseSize := 0
  keepAlive := false
  length_buffer := List.length_replicate _ _

/-- The fields `add_connection` sets in the slot it takes; the buffer keeps its bytes. -/
def Connection.install (c : Connection) (fd : Int) : Connection :=
  { c with fd := fd, bufferUsed := 0, response := none, responseSize := 0, responseSent := 0,
           keepAlive := false }

/-- The fields `remove_connection` resets; the buffer keeps its bytes. -/
def Connection.release (c : Connection) : Connection :=
  { c with fd := -1, bufferUsed := 0, response := none, responseSize := 0, responseSent := 0,
           keepAlive := false }

@[simp] theorem Connection.install_fd (c : Connection) (fd : Int) : (c.install fd).fd = fd := rfl
@[simp] theorem Connection.release_fd (c : Connection) : c.release.fd = -1 := rfl
@[simp] theorem Connection.release_response (c : Connection) : c.release.response = none := rfl
@[simp] theorem Connection.release_buffer (c : Connection) : c.release.buffer = c.buffer := rfl
@[simp] theorem Connection.release_bufferUsed (c : Connection) : c.release.bufferUsed = 0 := rfl
@[simp] theorem Connection.release_responseSize (c : Connection) : c.release.responseSize = 0 :=
  rfl
@[simp] theorem Connection.release_responseSent (c : Connection) : c.release.responseSent = 0 :=
  rfl
@[simp] theorem Connection.release_release (c : Connection) : c.release.release = c.release := rfl

/-! ### The pool -/

/-- The array `connections`. -/
abbrev Pool := Slot → Connection

/-- `init_connections`. -/
def initConnections : Pool := fun _ => Connection.unused

/-- The scan of `add_connection`: the first slot from index `i` on whose `fd` is negative. -/
def firstFree (conns : Pool) (i : Nat) : Option Slot :=
  if h : i < maxConnections then
    if (conns ⟨i, h⟩).fd < 0 then some ⟨i, h⟩ else firstFree conns (i + 1)
  else none
termination_by maxConnections - i

/-- `add_connection (fd)`: the slot it returns (`none` for `NULL`) and the pool after. -/
def addConnection (conns : Pool) (fd : Int) : Option Slot × Pool :=
  match firstFree conns 0 with
  | some i => (some i, Function.update conns i ((conns i).install fd))
  | none => (none, conns)

/-- `remove_connection (conn)` on slot `i`: close the descriptor when it is set, free the
response, reset the slot. -/
def removeConnection (conns : Pool) (k : Kernel) (i : Slot) : Pool × Kernel :=
  (Function.update conns i (conns i).release,
    if 0 ≤ (conns i).fd then k.close (conns i).fd else k)

/-- One turn of the loop of `free_connections`: close slot `i`'s descriptor if it holds one. -/
def closeSlot (conns : Pool) (k : Kernel) (i : Slot) : Kernel :=
  if 0 ≤ (conns i).fd then k.close (conns i).fd else k

/-- `free_connections`: close, slot by slot, every descriptor the pool still holds. -/
def freeConnections (conns : Pool) (k : Kernel) : Kernel :=
  (List.finRange maxConnections).foldl (closeSlot conns) k

/- A projection of an unfolded `freeConnections` makes Lean run the loop over all
`MAX_CONNECTIONS` slots: proofs rewrite with this equation instead. -/
theorem freeConnections_eq (conns : Pool) (k : Kernel) :
    freeConnections conns k = (List.finRange maxConnections).foldl (closeSlot conns) k := rfl

/-- What every `close` keeps, `free_connections` keeps. -/
theorem freeConnections_of_close {P : Kernel → Prop} (closing : ∀ k fd, P k → P (k.close fd))
    (conns : Pool) {k : Kernel} (start : P k) : P (freeConnections conns k) := by
  rw [freeConnections_eq]
  suffices folded : ∀ (slots : List Slot) k₀, P k₀ → P (slots.foldl (closeSlot conns) k₀) from
    folded _ k start
  intro slots
  induction slots with
  | nil => exact fun _ holds => holds
  | cons j rest ih =>
    refine fun k₀ holds => ih _ ?_
    unfold closeSlot
    split_ifs
    exacts [closing _ _ holds, holds]

/-- The occupied slots. -/
def occupied (conns : Pool) : Finset Slot := Finset.univ.filter fun i => 0 ≤ (conns i).fd

/-! ### The scan -/

theorem firstFree_eq_some_iff (conns : Pool) (i : Nat) (j : Slot) :
    firstFree conns i = some j ↔
      i ≤ j ∧ (conns j).fd < 0 ∧ ∀ m : Slot, i ≤ m → m < j → 0 ≤ (conns m).fd := by
  induction i using firstFree.induct conns with
  | case1 i bound free =>
    rw [firstFree, dif_pos bound, if_pos free, Option.some.injEq]
    constructor
    · rintro rfl
      exact ⟨le_rfl, free, fun m low high => absurd high (by simp [Fin.lt_def]; omega)⟩
    · rintro ⟨low, freeJ, before⟩
      by_contra different
      have : i < (j : Nat) := lt_of_le_of_ne low (fun same => different (Fin.ext same))
      exact absurd (before ⟨i, bound⟩ le_rfl this) (not_le.mpr free)
  | case2 i bound taken ih =>
    rw [firstFree, dif_pos bound, if_neg taken, ih]
    constructor
    · rintro ⟨low, freeJ, before⟩
      refine ⟨by omega, freeJ, fun m lowM high => ?_⟩
      rcases Nat.lt_or_ge i m with later | same
      · exact before m later high
      · have : m = ⟨i, bound⟩ := Fin.ext (by simp at lowM ⊢; omega)
        subst this
        exact not_lt.mp taken
    · rintro ⟨low, freeJ, before⟩
      have : i ≠ j := fun same => taken (by rwa [show (⟨i, bound⟩ : Slot) = j from Fin.ext same])
      exact ⟨by omega, freeJ, fun m lowM high => before m (by omega) high⟩
  | case3 i bound =>
    rw [firstFree, dif_neg bound]
    simp only [reduceCtorEq, false_iff, not_and, not_lt]
    intro low
    exact absurd j.isLt (by omega)

theorem firstFree_eq_none_iff (conns : Pool) (i : Nat) :
    firstFree conns i = none ↔ ∀ m : Slot, i ≤ m → 0 ≤ (conns m).fd := by
  induction i using firstFree.induct conns with
  | case1 i bound free =>
    rw [firstFree, dif_pos bound, if_pos free]
    simp only [reduceCtorEq, false_iff, not_forall, not_le]
    exact ⟨⟨i, bound⟩, le_rfl, free⟩
  | case2 i bound taken ih =>
    rw [firstFree, dif_pos bound, if_neg taken, ih]
    constructor
    · intro later m low
      rcases Nat.lt_or_ge i m with after | same
      · exact later m after
      · have : m = ⟨i, bound⟩ := Fin.ext (by simp at low ⊢; omega)
        subst this
        exact not_lt.mp taken
    · exact fun all m low => all m (by omega)
  | case3 i bound =>
    rw [firstFree, dif_neg bound]
    simp only [true_iff]
    exact fun m low => absurd m.isLt (by omega)

/-- The scan stops at once on a free slot 0. -/
theorem firstFree_of_free_zero {conns : Pool} (free : (conns 0).fd < 0) : firstFree conns 0 = some 0 :=
  (firstFree_eq_some_iff conns 0 0).mpr
    ⟨le_rfl, free, fun _ _ before => absurd before (Nat.not_lt_zero _)⟩

/-! ### `add_connection` and `remove_connection` -/

/-- `add_connection` returns `NULL` exactly on a full pool, and then changes nothing. -/
theorem addConnection_full (conns : Pool) (fd : Int) :
    ((addConnection conns fd).1 = none ↔ ∀ i, 0 ≤ (conns i).fd) ∧
      ((addConnection conns fd).1 = none → (addConnection conns fd).2 = conns) := by
  unfold addConnection
  cases scan : firstFree conns 0 with
  | none => exact ⟨by simpa using (firstFree_eq_none_iff conns 0).mp scan, fun _ => rfl⟩
  | some i =>
    have free := ((firstFree_eq_some_iff conns 0 i).mp scan).2.1
    exact ⟨by simpa using ⟨i, free⟩, by simp⟩

/-- Otherwise `add_connection` fills a slot that was free, and only that slot. -/
theorem addConnection_some {conns : Pool} {fd : Int} {i : Slot}
    (found : (addConnection conns fd).1 = some i) :
    (conns i).fd < 0 ∧ (addConnection conns fd).2 = Function.update conns i ((conns i).install fd) := by
  unfold addConnection at found ⊢
  cases scan : firstFree conns 0 with
  | none => simp [scan] at found
  | some j =>
    simp only [scan, Option.some.injEq] at found
    subst found
    exact ⟨((firstFree_eq_some_iff conns 0 _).mp scan).2.1, rfl⟩

@[simp] theorem removeConnection_fst (conns : Pool) (k : Kernel) (i : Slot) :
    (removeConnection conns k i).1 = Function.update conns i (conns i).release := rfl

theorem removeConnection_snd_of_occupied {conns : Pool} {k : Kernel} {i : Slot}
    (taken : 0 ≤ (conns i).fd) : (removeConnection conns k i).2 = k.close (conns i).fd := by
  simp [removeConnection, taken]

theorem removeConnection_snd_of_free {conns : Pool} {k : Kernel} {i : Slot}
    (free : (conns i).fd < 0) : (removeConnection conns k i).2 = k := by
  simp [removeConnection, not_le.mpr free]

/-- The pool never holds more than `MAX_CONNECTIONS` connections. -/
theorem card_occupied_le (conns : Pool) : (occupied conns).card ≤ maxConnections :=
  (Finset.card_filter_le _ _).trans (by rw [Finset.card_univ, Fintype.card_fin])

/-- Slot `i` getting `c` adds `i` to the occupied slots or takes it out, by the sign of
`c.fd`. -/
theorem occupied_update (conns : Pool) (i : Slot) (c : Connection) :
    occupied (Function.update conns i c) =
      if 0 ≤ c.fd then insert i (occupied conns) else (occupied conns).erase i := by
  ext j
  by_cases here : j = i
  · subst here
    split_ifs <;> simp [occupied, *]
  · split_ifs <;> simp [occupied, here]

/-- A slot that stays occupied, or stays free, leaves the occupied slots as they were. -/
theorem occupied_update_of_iff {conns : Pool} {i : Slot} {c : Connection}
    (same : 0 ≤ c.fd ↔ 0 ≤ (conns i).fd) : occupied (Function.update conns i c) = occupied conns := by
  rw [occupied_update]
  split_ifs with taken
  · exact Finset.insert_eq_of_mem (by simp [occupied, same.mp taken])
  · exact Finset.erase_eq_of_not_mem (by simpa [occupied, same] using taken)

end EpollWebServer
