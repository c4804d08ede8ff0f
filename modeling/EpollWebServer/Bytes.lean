import Mathlib.Data.List.Infix
import Mathlib.Data.Nat.Digits

/-!
**Byte strings and the C library calls the web server makes on them.**

`high_perf_webserver.c` keeps requests and responses in `char` arrays. It inspects them with
`strstr`, `strncmp`, `strcmp` and `sscanf`, which all read a C string (the bytes before the
first NUL). `recv` writes into an array at an offset, and `snprintf` prints the decimal
`Content-Length`. Everything here works over `List UInt8`.

* `cstr_append_zero`: a C string ends at the first NUL, whatever follows it.
* `overwrite_eq`, `getElem?_overwrite_of_le`: the write `recv` makes is a splice of the array,
  and bytes past the written ones are left alone.
* `decimal_isDigit`: `%ld` prints only ASCII digits.
* `infix_of_disjoint`: a needle that shares no byte with a non-empty middle segment lies
  wholly on one side of it. Together with `decimal_isDigit`, this lets a header with a
  printed length be searched as two fixed halves.
-/

namespace EpollWebServer

/-! ### Literals and C strings -/

/-- The bytes of a string literal of the source; every literal there is ASCII. -/
def bytesOf (s : String) : List UInt8 := s.toList.map Char.toUInt8

/-- The C string a `char` array holds: its bytes before the first NUL. -/
def cstr (b : List UInt8) : List UInt8 := b.takeWhile (· != 0)

/-- `strstr (haystack, needle) != NULL`. -/
def strstr (haystack needle : List UInt8) : Bool := decide (cstr needle <:+: cstr haystack)

/-- `strncmp (s, t, n) == 0`: the two C strings agree on their first `n` bytes. -/
def strncmpEq (s t : List UInt8) (n : Nat) : Bool := (cstr s).take n == (cstr t).take n

/-- `isspace` in the C locale: the space and `\t \n \v \f \r`. -/
def isspace (b : UInt8) : Bool := b == 32 || (9 ≤ b && b ≤ 13)

theorem cstr_eq_self {l : List UInt8} (noNul : ∀ x ∈ l, x ≠ 0) : cstr l = l :=
  List.takeWhile_eq_self_iff.mpr fun x member => by simpa using noNul x member

theorem cstr_nil : cstr [] = [] := rfl

/-- A C string stops at the first NUL: what lies behind it is never read. -/
theorem cstr_append_zero (l r : List UInt8) : cstr (l ++ 0 :: r) = cstr l := by
  unfold cstr
  rw [List.takeWhile_append]
  split
  · rename_i whole
    have : List.takeWhile (· != 0) l = l := List.IsPrefix.eq_of_length (List.takeWhile_prefix _) whole
    simp [this]
  · rfl

theorem cstr_noNul (l : List UInt8) : ∀ x ∈ cstr l, x ≠ 0 := by
  intro x member
  simpa using List.mem_takeWhile_imp member

theorem cstr_idem (l : List UInt8) : cstr (cstr l) = cstr l := cstr_eq_self (cstr_noNul l)

theorem cstr_prefix_self (l : List UInt8) : cstr l <+: l := List.takeWhile_prefix _

/-- `strstr` with a needle free of NUL bytes is a search for the needle. -/
theorem strstr_iff {haystack needle : List UInt8} (noNul : ∀ x ∈ needle, x ≠ 0) :
    strstr haystack needle = true ↔ needle <:+: cstr haystack := by
  simp [strstr, cstr_eq_self noNul]

/-! ### The write of `recv` -/

/-- The array `buffer` after `recv (fd, buffer + offset, len, 0)` stored `chunk` at `offset`.
An array keeps its length; the calls the server makes never reach past its end. -/
def overwrite : List UInt8 → Nat → List UInt8 → List UInt8
  | [], _, _ => []
  | bs, 0, [] => bs
  | _ :: bs, 0, c :: cs => c :: overwrite bs 0 cs
  | b :: bs, offset + 1, chunk => b :: overwrite bs offset chunk

@[simp]
theorem length_overwrite (buffer : List UInt8) (offset : Nat) (chunk : List UInt8) :
    (overwrite buffer offset chunk).length = buffer.length := by
  induction buffer, offset, chunk using overwrite.induct <;> simp_all [overwrite]

/-- Within bounds the write is a splice. -/
theorem overwrite_eq {buffer chunk : List UInt8} {offset : Nat}
    (fits : offset + chunk.length ≤ buffer.length) :
    overwrite buffer offset chunk =
      buffer.take offset ++ chunk ++ buffer.drop (offset + chunk.length) := by
  induction buffer, offset, chunk using overwrite.induct with
  | case1 offset chunk => simp_all [overwrite]
  | case2 bs => cases bs <;> rfl
  | case3 _ bs c cs ih =>
    simp only [List.length_cons] at fits
    simp [overwrite, ih (by omega), Nat.add_comm 1, ← Nat.add_assoc]
  | case4 b bs offset chunk ih =>
    simp only [List.length_cons] at fits
    simp [overwrite, ih (by omega), Nat.add_right_comm offset 1]

/-- The bytes past the written ones are untouched. -/
theorem getElem?_overwrite_of_le {buffer chunk : List UInt8} {offset index : Nat}
    (past : offset + chunk.length ≤ index) :
    (overwrite buffer offset chunk)[index]? = buffer[index]? := by
  induction buffer, offset, chunk using overwrite.induct generalizing index with
  | case1 => simp [overwrite]
  | case2 bs => cases bs <;> rfl
  | case3 _ bs c cs ih =>
    obtain ⟨index, rfl⟩ : ∃ i, index = i + 1 := ⟨index - 1, by simp at past; omega⟩
    simpa [overwrite] using ih (by simp at past; omega)
  | case4 b bs offset chunk ih =>
    obtain ⟨index, rfl⟩ : ∃ i, index = i + 1 := ⟨index - 1, by omega⟩
    simpa [overwrite] using ih (by omega)

/-! ### `%ld` -/

/-- `%ld` of a non-negative `long`: its decimal digits. -/
def decimal (n : Nat) : List UInt8 := (Nat.toDigits 10 n).map Char.toUInt8

/-- An ASCII digit. -/
def isDigitByte (b : UInt8) : Bool := 48 ≤ b && b ≤ 57

theorem isDigitByte_digitChar : ∀ d < 10, isDigitByte (Nat.digitChar d).toUInt8 = true := by
  decide

theorem toDigitsCore_isDigit (fuel n : Nat) (ds : List Char)
    (digits : ∀ c ∈ ds, isDigitByte c.toUInt8 = true) :
    ∀ c ∈ Nat.toDigitsCore 10 fuel n ds, isDigitByte c.toUInt8 = true := by
  induction fuel generalizing n ds with
  | zero => exact digits
  | succ fuel ih =>
    have head : isDigitByte (Nat.digitChar (n % 10)).toUInt8 = true :=
      isDigitByte_digitChar _ (Nat.mod_lt _ (by decide))
    simp only [Nat.toDigitsCore]
    split
    · simpa [head] using digits
    · exact ih _ _ (by simpa [head] using digits)

/-- `%ld` prints only ASCII digits. -/
theorem decimal_isDigit (n : Nat) : ∀ b ∈ decimal n, isDigitByte b = true := by
  simp only [decimal, List.mem_map, forall_exists_index, and_imp]
  rintro _ c member rfl
  exact toDigitsCore_isDigit _ _ [] (by simp) c member

theorem toDigitsCore_ne_nil (fuel n : Nat) {ds : List Char} (nonempty : ds ≠ []) :
    Nat.toDigitsCore 10 fuel n ds ≠ [] := by
  induction fuel generalizing n ds with
  | zero => exact nonempty
  | succ fuel ih =>
    simp only [Nat.toDigitsCore]
    split
    · simp
    · exact ih _ (by simp)

theorem decimal_ne_nil (n : Nat) : decimal n ≠ [] := by
  simp only [decimal, Nat.toDigits, Nat.toDigitsCore, ne_eq, List.map_eq_nil_iff]
  split
  · simp
  · exact toDigitsCore_ne_nil _ _ (by simp)

/-! ### Searching across a segment that shares no byte with the needle -/

/-- A needle that shares no element with a non-empty middle segment cannot straddle it: any
occurrence lies in the left part or in the right part. -/
theorem infix_of_disjoint {α : Type} {needle left middle right : List α} (nonempty : needle ≠ [])
    (nonemptyMiddle : middle ≠ []) (disjoint : ∀ x ∈ needle, x ∉ middle)
    (occurs : needle <:+: left ++ middle ++ right) : needle <:+: left ∨ needle <:+: right := by
  obtain ⟨s, t, split⟩ := occurs
  rw [List.append_assoc, List.append_assoc] at split
  rcases List.append_eq_append_iff.mp split with ⟨a', rfl, rest⟩ | ⟨c', rfl, rest⟩
  · rcases List.append_eq_append_iff.mp rest with ⟨x, rfl, -⟩ | ⟨y, rfl, tail⟩
    · exact .inl ⟨s, x, by simp⟩
    · cases y with
      | nil => exact .inl ⟨s, [], by simp⟩
      | cons z zs =>
        obtain ⟨m, ms, rfl⟩ := List.exists_cons_of_ne_nil nonemptyMiddle
        simp only [List.cons_append, List.cons.injEq] at tail
        exact absurd (by simp [tail.1]) (disjoint z (by simp))
  · rcases List.append_eq_append_iff.mp rest.symm with ⟨x, rfl, tail⟩ | ⟨y, -, rfl⟩
    · cases x with
      | nil => exact .inr ⟨[], t, by simpa using tail⟩
      | cons z zs =>
        obtain ⟨n, ns, rfl⟩ := List.exists_cons_of_ne_nil nonempty
        simp only [List.cons_append, List.cons.injEq] at tail
        exact absurd (by simp [← tail.1]) (disjoint n (by simp))
    · exact .inr ⟨y, t, by simp⟩

end EpollWebServer
