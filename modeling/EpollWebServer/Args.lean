import EpollWebServer.Bytes

/-!
**`main`'s argument loop: `-p`, `atoi` and the port `bind` gets.**

Before anything else, `main` walks `argv[1..argc)`. `-p` followed by another argument sets
`port = atoi (argv[i + 1])` and skips that argument, whatever it is. `-h` or `--help` prints the
usage and returns 0. Everything else is ignored, a trailing `-p` included. The port then reaches
`bind` as `htons (port)`, which takes the `int` as a 16-bit value. Nothing checks the range:
`-p 70000` binds port 4464, and `-p http` binds port 0.

* `atoiDigits_append`, `atoiDigits_toDigitsCore`: `atoi`'s digit loop reads the digits `%ld`
  prints back into the number, and stops at the first byte that is not a digit.
* `atoi_decimal_append`: `atoi` of the decimal text of `n`, followed by anything that does not
  start with a digit, is `n`.
* `startupPort_decimal`: `-p` with the decimal text of any non-negative `int` binds that value
  modulo 2^16.
-/

namespace EpollWebServer

/-- `HTTP_PORT`: the port without `-p`. -/
def httpPort : Int := 8080

/-- The digit loop of `atoi`: each decimal digit `d` turns the value `v` into `10 v + d`, and the
first byte that is not a digit ends it. -/
def atoiDigits : List UInt8 → Nat → Nat
  | b :: rest, value => if isDigitByte b then atoiDigits rest (10 * value + (b.toNat - 48)) else value
  | [], value => value

/-- `atoi (s)`: blanks skipped, an optional sign, then the digits. This is the value as a number;
C defines `atoi` only where it fits an `int`. -/
def atoi (s : List UInt8) : Int :=
  match (cstr s).dropWhile isspace with
  | b :: rest =>
    if b = 45 then -(atoiDigits rest 0 : Int)
    else if b = 43 then atoiDigits rest 0
    else atoiDigits (b :: rest) 0
  | [] => 0

/-- `strcmp (argv[i], "-h") == 0 || strcmp (argv[i], "--help") == 0`. -/
def isHelp (arg : List UInt8) : Bool := arg = bytesOf "-h" || arg = bytesOf "--help"

/-- The loop `for (int i = 1; i < argc; i++)` of `main` over the arguments `argv[i..argc)` still
to read, with `port` the value so far. It gives the port when the loop runs out, and `none`
when it prints the usage and returns 0. -/
def parseArgs : List (List UInt8) → Int → Option Int
  | a :: b :: rest, port =>
    if a = bytesOf "-p" then parseArgs rest (atoi b)
    else if isHelp a then none
    else parseArgs (b :: rest) port
  | [a], port => if isHelp a then none else some port
  | [], port => some port

/-- `address.sin_port = htons (port)`: the `int` taken as a `uint16_t`, modulo 2^16. -/
def boundPort (port : Int) : Nat := (port % 65536).toNat

/-- What `main` makes of `argv`: the port it binds, or `none` when it prints the usage and
returns 0. -/
def startupPort (argv : List (List UInt8)) : Option Nat := (parseArgs argv.tail httpPort).map boundPort

/-! ### `atoi` against `%ld` -/

/-- The digit loop over a run of digits, then the rest. -/
theorem atoiDigits_append {digits : List UInt8} (allDigits : ∀ b ∈ digits, isDigitByte b = true)
    (rest : List UInt8) (value : Nat) :
    atoiDigits (digits ++ rest) value =
      atoiDigits rest (digits.foldl (fun v b => 10 * v + (b.toNat - 48)) value) := by
  induction digits generalizing value with
  | nil => rfl
  | cons b digits ih =>
    rw [List.cons_append, atoiDigits, if_pos (allDigits b (List.mem_cons_self _ _)),
      ih fun x m => allDigits x (List.mem_cons_of_mem _ m), List.foldl_cons]

theorem digitChar_value : ∀ d < 10, (Nat.digitChar d).toUInt8.toNat - 48 = d := by
  decide

/-- The loop of `Nat.toDigits` puts the digits of `n` in front of what it has. -/
theorem toDigitsCore_append (fuel n : Nat) (ds : List Char) :
    Nat.toDigitsCore 10 fuel n ds = Nat.toDigitsCore 10 fuel n [] ++ ds := by
  induction fuel generalizing n ds with
  | zero => rfl
  | succ fuel ih =>
    simp only [Nat.toDigitsCore]
    split
    · rfl
    · rw [ih _ (_ :: ds), ih _ [_], List.append_assoc, List.singleton_append]

/-- Read back through the digit loop, the digits of `n` give `n`, with enough fuel. -/
theorem atoiDigits_toDigitsCore (fuel n : Nat) (enough : n < fuel) :
    ((Nat.toDigitsCore 10 fuel n []).map Char.toUInt8).foldl (fun v b => 10 * v + (b.toNat - 48)) 0 = n := by
  induction fuel generalizing n with
  | zero => omega
  | succ fuel ih =>
    have digit := digitChar_value (n % 10) (Nat.mod_lt _ (by decide))
    simp only [Nat.toDigitsCore]
    split
    · rename_i small
      simp only [List.map_cons, List.map_nil, List.foldl_cons, List.foldl_nil, digit]
      omega
    · rw [toDigitsCore_append, List.map_append, List.foldl_append, ih _ (by omega)]
      simp only [List.map_cons, List.map_nil, List.foldl_cons, List.foldl_nil, digit]
      omega

/-- A digit is not a blank, a sign or NUL. -/
theorem isDigitByte_plain {b : UInt8} (digit : isDigitByte b = true) :
    isspace b = false ∧ b ≠ 45 ∧ b ≠ 43 ∧ b ≠ 0 := by
  simp only [isDigitByte, Bool.and_eq_true, decide_eq_true_eq, UInt8.le_def, UInt8.toBitVec_ofNat] at digit
  have above : (32 : UInt8) < b ∧ (45 : UInt8) < b ∧ (43 : UInt8) < b ∧ (0 : UInt8) < b ∧ (13 : UInt8) < b := by
    simp only [UInt8.lt_def, UInt8.toBitVec_ofNat]
    bv_omega
  refine ⟨?_, (UInt8.ne_of_lt above.2.1).symm, (UInt8.ne_of_lt above.2.2.1).symm,
    (UInt8.ne_of_lt above.2.2.2.1).symm⟩
  simp [isspace, (UInt8.ne_of_lt above.1).symm, UInt8.not_le.mpr above.2.2.2.2]

/-- **`atoi` reads back what `%ld` prints**, and stops at the first byte that is not a digit. -/
theorem atoi_decimal_append (n : Nat) {rest : List UInt8}
    (stop : ∀ b ∈ rest.head?, isDigitByte b = false) : atoi (decimal n ++ rest) = n := by
  have digits := decimal_isDigit n
  have noNul : ∀ b ∈ decimal n, (b != 0) = true := fun b m => by
    simpa using (isDigitByte_plain (digits b m)).2.2.2
  obtain ⟨b, bs, split⟩ := List.exists_cons_of_ne_nil (decimal_ne_nil n)
  obtain ⟨notSpace, minus, plus, -⟩ := isDigitByte_plain (digits b (by rw [split]; exact List.mem_cons_self _ _))
  have stops : atoiDigits (cstr rest) n = n := by
    cases rest with
    | nil => rfl
    | cons x xs =>
      unfold cstr
      rw [List.takeWhile_cons]
      split
      · simp [atoiDigits, stop x rfl]
      · rfl
  unfold atoi cstr
  rw [List.takeWhile_append_of_pos noNul, split, List.cons_append, List.dropWhile_cons_of_neg
    (by simp [notSpace])]
  simp only [if_neg minus, if_neg plus]
  rw [← List.cons_append, ← split, atoiDigits_append digits, decimal, Nat.toDigits,
    atoiDigits_toDigitsCore _ _ (Nat.lt_succ_self n)]
  exact congrArg Nat.cast stops

/-! ### The port -/

/-- The loop steps over arguments that are neither `-p` nor a help flag. -/
theorem parseArgs_skip {others : List (List UInt8)}
    (plain : ∀ a ∈ others, a ≠ bytesOf "-p" ∧ isHelp a = false) (later : List (List UInt8))
    (port : Int) : parseArgs (others ++ later) port = parseArgs later port := by
  induction others with
  | nil => rfl
  | cons a others ih =>
    obtain ⟨notPort, notHelp⟩ := plain a (List.mem_cons_self _ _)
    have rest := ih fun x m => plain x (List.mem_cons_of_mem _ m)
    rw [List.cons_append]
    cases next : others ++ later with
    | nil =>
      rw [← rest, next]
      simp [parseArgs, notHelp]
    | cons b bs => rw [parseArgs, if_neg notPort, if_neg (by simp [notHelp]), ← next, rest]

/-- **`-p` sets the port, unchecked.** Take a command line with `-p` followed by the decimal text
of a non-negative `int` `n`, then anything that does not start with a digit. The other
arguments, before or after, are neither `-p` nor a help flag. `main` then binds port `n` modulo
2^16, whatever the other arguments are. -/
theorem startupPort_decimal (program : List UInt8) {before after : List (List UInt8)}
    (plainBefore : ∀ a ∈ before, a ≠ bytesOf "-p" ∧ isHelp a = false)
    (plainAfter : ∀ a ∈ after, a ≠ bytesOf "-p" ∧ isHelp a = false) (n : Fin (2 ^ 31))
    {rest : List UInt8} (stop : ∀ b ∈ rest.head?, isDigitByte b = false) :
    startupPort (program :: before ++ bytesOf "-p" :: (decimal n ++ rest) :: after) =
      some ((n : Nat) % 65536) := by
  have ends : parseArgs after ((n : Nat) : Int) = some ((n : Nat) : Int) := by
    simpa [parseArgs] using parseArgs_skip plainAfter [] (n : Nat)
  simp only [startupPort, List.cons_append, List.tail_cons, parseArgs_skip plainBefore, parseArgs,
    if_true, atoi_decimal_append _ stop, ends, Option.map_some', boundPort, Option.some.injEq]
  omega

theorem port70000_wraps : startupPort [bytesOf "webserver", bytesOf "-p", decimal 70000] = some 4464 := by
  have bound := startupPort_decimal (bytesOf "webserver") (by simp : ∀ a ∈ ([] : List (List UInt8)), _)
    (by simp : ∀ a ∈ ([] : List (List UInt8)), _) ⟨70000, by decide⟩
    (by simp : ∀ b ∈ ([] : List UInt8).head?, isDigitByte b = false)
  simpa using bound

end EpollWebServer
