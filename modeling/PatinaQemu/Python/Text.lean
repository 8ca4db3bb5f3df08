import Mathlib.Data.List.Basic
import Mathlib.Tactic.Ring

set_option autoImplicit false

/-!
# Python text and exceptions

The launcher's Python code raises a handful of exceptions and reads its
settings through a few `str` methods. This file fixes both: `PyError` is the
exception a modelled call raises, with the text Python gives it, and
`pyStrip`, `pyLower` are `str.strip()` and `str.lower()`.

`str.lower()` is only ever compared with ASCII words (`"true"`, `"kvm"`,
`".vhd"`, ...). `pyLowerChar` lowers ASCII letters and the one non-ASCII
character whose lower case is ASCII (KELVIN SIGN, which lowers to `k`), so it
agrees with Python on every such comparison.
-/

namespace PatinaQemu

/-- An exception raised by the modelled code, with Python's message text. -/
inductive PyError
  | typeError (msg : String)
  | attributeError (msg : String)
  | valueError (msg : String)
  | fileNotFoundError (msg : String)
  /-- An `OSError` the host raised, as `os.stat` does for a path it cannot examine. -/
  | osError (msg : String)
  /-- A bare `raise Exception(...)` of the repository's own code. -/
  | exception (msg : String)
  /-- `KeyboardInterrupt`, raised in the main thread by a Ctrl+C. -/
  | keyboardInterrupt
  deriving DecidableEq, Repr

/-- The code points `str.isspace()` accepts, which are also the ones `\s` matches in
a `str` pattern and the ones `str.strip()` removes. -/
def pySpaces : List Nat :=
  [0x09, 0x0A, 0x0B, 0x0C, 0x0D, 0x1C, 0x1D, 0x1E, 0x1F, 0x20, 0x85, 0xA0,
    0x1680, 0x2000, 0x2001, 0x2002, 0x2003, 0x2004, 0x2005, 0x2006, 0x2007, 0x2008,
    0x2009, 0x200A, 0x2028, 0x2029, 0x202F, 0x205F, 0x3000]

/-- A whitespace character, in Python's sense. -/
def isPySpace (c : Char) : Bool := c.toNat ∈ pySpaces

/-- `str.strip()`. -/
def pyStrip (s : String) : String :=
  ⟨((s.toList.dropWhile isPySpace).reverse.dropWhile isPySpace).reverse⟩

/-- `str.lower()` on one character, exact whenever the result is ASCII. -/
def pyLowerChar (c : Char) : Char :=
  if c.toNat = 0x212A then 'k' else c.toLower

/-- `str.lower()`. -/
def pyLower (s : String) : String := ⟨s.toList.map pyLowerChar⟩

/-- `a < b` on `str`: the first differing code point decides, and a proper prefix comes
first. -/
def pyLt : List Char → List Char → Bool
  | [], [] => false
  | [], _ :: _ => true
  | _ :: _, [] => false
  | c :: cs, d :: ds => c.toNat < d.toNat || (c = d && pyLt cs ds)

/-- `a >= b` on `str`. -/
def pyGe (a b : String) : Bool := !pyLt a.toList b.toList

/-- The first code points of the runs of ten decimal digits (Unicode category Nd,
Unicode 14.0 as in Python 3.11); the mathematical digits from `0x1D7CE` on are five
such runs. -/
def decimalRuns : List Nat :=
  [0x30, 0x660, 0x6F0, 0x7C0, 0x966, 0x9E6, 0xA66, 0xAE6, 0xB66, 0xBE6, 0xC66, 0xCE6, 0xD66,
    0xDE6, 0xE50, 0xED0, 0xF20, 0x1040, 0x1090, 0x17E0, 0x1810, 0x1946, 0x19D0, 0x1A80,
    0x1A90, 0x1B50, 0x1BB0, 0x1C40, 0x1C50, 0xA620, 0xA8D0, 0xA900, 0xA9D0, 0xA9F0, 0xAA50,
    0xABF0, 0xFF10, 0x104A0, 0x10D30, 0x11066, 0x110F0, 0x11136, 0x111D0, 0x112F0, 0x11450,
    0x114D0, 0x11650, 0x116C0, 0x11730, 0x118E0, 0x11950, 0x11C50, 0x11D50, 0x11DA0,
    0x16A60, 0x16AC0, 0x16B50, 0x1D7CE, 0x1D7D8, 0x1D7E2, 0x1D7EC, 0x1D7F6, 0x1E140,
    0x1E2F0, 0x1E950, 0x1FBF0]

/-- A decimal digit: what `\d` matches in a `str` pattern. -/
def isDecimal (c : Char) : Bool := decimalRuns.any fun s => s ≤ c.toNat && c.toNat < s + 10

theorem not_isPySpace_of_isDecimal {c : Char} (h : isDecimal c = true) :
    isPySpace c = false := by
  have disjoint : ∀ n ∈ pySpaces, (decimalRuns.any fun s => s ≤ n && n < s + 10) = false := by
    decide
  simp only [isPySpace, decide_eq_false_iff_not]
  exact fun hc => by simp [isDecimal, disjoint _ hc] at h

theorem isDecimal_digitChar : ∀ m < 10, isDecimal (Nat.digitChar m) = true := by decide

private theorem isDecimal_of_mem_toDigitsCore : ∀ (fuel n : Nat) (acc : List Char),
    (∀ c ∈ acc, isDecimal c = true) → ∀ c ∈ Nat.toDigitsCore 10 fuel n acc, isDecimal c = true
  | 0, _, _, h => h
  | fuel + 1, n, acc, h => by
    have hd : ∀ c ∈ Nat.digitChar (n % 10) :: acc, isDecimal c = true :=
      List.forall_mem_cons.2 ⟨isDecimal_digitChar _ (Nat.mod_lt n (by decide)), h⟩
    show ∀ c ∈ (if n / 10 = 0 then _ else Nat.toDigitsCore 10 fuel (n / 10) _), _
    split
    · exact hd
    · exact isDecimal_of_mem_toDigitsCore fuel _ _ hd

/-- `str(n)` of a natural number is made of decimal digits. -/
theorem isDecimal_of_mem_toString (n : Nat) : ∀ c ∈ (toString n).toList, isDecimal c = true :=
  isDecimal_of_mem_toDigitsCore _ _ _ (by simp)

/-- A character that is no digit does not occur in `str(n)`. -/
theorem not_mem_toString {c : Char} (hc : isDecimal c = false) (n : Nat) :
    c ∉ (toString n).toList := fun h => by
  simp [isDecimal_of_mem_toString n c h] at hc

/-- The number a list of decimal digits denotes. -/
def decimalValue : List Char → Nat
  | [] => 0
  | c :: l => (c.toNat - 48) * 10 ^ l.length + decimalValue l

theorem digitChar_value : ∀ m < 10, (Nat.digitChar m).toNat - 48 = m := by decide

private theorem decimalValue_toDigitsCore : ∀ (fuel n : Nat) (acc : List Char), n < fuel →
    decimalValue (Nat.toDigitsCore 10 fuel n acc) = n * 10 ^ acc.length + decimalValue acc
  | 0, _, _, h => absurd h (Nat.not_lt_zero _)
  | fuel + 1, n, acc, h => by
    have digit : decimalValue (Nat.digitChar (n % 10) :: acc) =
        n % 10 * 10 ^ acc.length + decimalValue acc := by
      rw [decimalValue, digitChar_value _ (Nat.mod_lt n (by decide))]
    show decimalValue (if n / 10 = 0 then _ else Nat.toDigitsCore 10 fuel (n / 10) _) = _
    split
    · rw [digit, Nat.mod_eq_of_lt (by omega)]
    · rw [decimalValue_toDigitsCore fuel (n / 10) _ (by omega), digit, List.length_cons]
      calc n / 10 * 10 ^ (acc.length + 1) + (n % 10 * 10 ^ acc.length + decimalValue acc)
          = (n % 10 + 10 * (n / 10)) * 10 ^ acc.length + decimalValue acc := by ring
        _ = n * 10 ^ acc.length + decimalValue acc := by rw [Nat.mod_add_div]

/-- `int(str(n)) == n`. -/
theorem decimalValue_toString (n : Nat) : decimalValue (toString n).toList = n := by
  simpa using decimalValue_toDigitsCore (n + 1) n [] (Nat.lt_succ_self n)

theorem toString_injective : Function.Injective (toString : Nat → String) := fun m n h => by
  rw [← decimalValue_toString m, h, decimalValue_toString]

end PatinaQemu
