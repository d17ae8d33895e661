/-!
# Decimal numbers of a fixed width

Calendar fields are written with a fixed number of digits.  The main statement,
`readDigits_writeDigits`, says that reading a field gives back the number written, whatever text
follows it.
-/

namespace CargoTracking.Text

/-- The value of an ASCII decimal digit. -/
def digitValue? (c : Char) : Option Nat :=
  if '0' ≤ c ∧ c ≤ '9' then some (c.toNat - '0'.toNat) else none

def isDigit (c : Char) : Bool := (digitValue? c).isSome

/-- The digit for the units of `n`. -/
def digitChar (n : Nat) : Char :=
  match n % 10 with
  | 0 => '0' | 1 => '1' | 2 => '2' | 3 => '3' | 4 => '4'
  | 5 => '5' | 6 => '6' | 7 => '7' | 8 => '8' | _ => '9'

/-- The number that is written as a one and `n` zeros. -/
def powerOfTen (n : Nat) : Nat := Nat.pow 10 n

theorem powerOfTen_succ (n : Nat) : powerOfTen (n + 1) = powerOfTen n * 10 := rfl

/-- The last `width` digits of `n`, most significant first, with zeros in front. -/
def writeDigits : (width : Nat) → (n : Nat) → List Char
  | 0, _ => []
  | width + 1, n => digitChar (n / powerOfTen width) :: writeDigits width n

/-- Exactly `width` digits, continuing the number `acc`, and the text after them. -/
def readDigitsFrom (acc : Nat) : (width : Nat) → List Char → Option (Nat × List Char)
  | 0, cs => some (acc, cs)
  | _ + 1, [] => none
  | width + 1, c :: cs => do readDigitsFrom (10 * acc + (← digitValue? c)) width cs

/-- Exactly `width` digits and the text after them. -/
def readDigits (width : Nat) (cs : List Char) : Option (Nat × List Char) :=
  readDigitsFrom 0 width cs

/-- The number that a list of digits stands for; none if another character is among them. -/
def digitsValue? (cs : List Char) : Option Nat :=
  cs.foldlM (fun acc c => (digitValue? c).map (10 * acc + ·)) 0

theorem digitValue?_digitChar (n : Nat) : digitValue? (digitChar n) = some (n % 10) := by
  have h : n % 10 < 10 := Nat.mod_lt _ (by decide)
  unfold digitChar
  generalize n % 10 = d at h ⊢
  match d, h with
  | 0, _ | 1, _ | 2, _ | 3, _ | 4, _ | 5, _ | 6, _ | 7, _ | 8, _ | 9, _ => decide

theorem readDigitsFrom_writeDigits (acc width n : Nat) (rest : List Char) :
    readDigitsFrom acc width (writeDigits width n ++ rest) =
      some (acc * powerOfTen width + n % powerOfTen width, rest) := by
  induction width generalizing acc with
  | zero => simp [writeDigits, readDigitsFrom, powerOfTen, Nat.mod_one]
  | succ width ih =>
    simp only [writeDigits, List.cons_append, readDigitsFrom, digitValue?_digitChar,
      Option.bind_eq_bind, Option.bind_some, ih]
    rw [powerOfTen_succ, Nat.mod_mul]
    congr 2
    rw [Nat.add_mul, Nat.mul_comm 10 acc, Nat.mul_assoc, Nat.mul_comm 10 (powerOfTen width),
      Nat.mul_comm (n / powerOfTen width % 10)]
    omega

theorem readDigits_writeDigits {width n : Nat} (h : n < powerOfTen width) (rest : List Char) :
    readDigits width (writeDigits width n ++ rest) = some (n, rest) := by
  rw [readDigits, readDigitsFrom_writeDigits, Nat.zero_mul, Nat.zero_add, Nat.mod_eq_of_lt h]

theorem length_writeDigits (width n : Nat) : (writeDigits width n).length = width := by
  induction width with
  | zero => rfl
  | succ width ih => simp [writeDigits, ih]

end CargoTracking.Text
