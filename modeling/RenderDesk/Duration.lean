/-
  RenderDesk.Duration
  ───────────────────
  Spans of time, and the text that messages show for them.

  A span is a number of nanoseconds.  Its text uses the largest of the units
  s, ms, µs and ns that fits, with all decimals and no trailing zero.

  Main statement: `text_of_seconds` — a whole number of seconds is shown by
  its digits and `s`.
-/

namespace RenderDesk

/-- A span of time, in nanoseconds. -/
structure Duration where
  nanoseconds : Nat
  deriving Repr, DecidableEq, Inhabited, Ord

namespace Duration

def zero : Duration := ⟨0⟩

def ofSeconds (n : Nat) : Duration := ⟨n * 1000000000⟩

def ofMilliseconds (n : Nat) : Duration := ⟨n * 1000000⟩

/-- Whole seconds of a span. -/
def seconds (d : Duration) : Nat := d.nanoseconds / 1000000000

/-- What is left of a span after its whole seconds. -/
def subsecond (d : Duration) : Nat := d.nanoseconds % 1000000000

instance : Add Duration := ⟨fun a b => ⟨a.nanoseconds + b.nanoseconds⟩⟩

instance : LE Duration := ⟨fun a b => a.nanoseconds ≤ b.nanoseconds⟩

instance (a b : Duration) : Decidable (a ≤ b) :=
  inferInstanceAs (Decidable (a.nanoseconds ≤ b.nanoseconds))

/-! ## Sums of spans. -/

theorem eq_of_nanoseconds {a b : Duration} (h : a.nanoseconds = b.nanoseconds) : a = b := by
  cases a
  exact congrArg mk h

@[simp] theorem nanoseconds_add (a b : Duration) :
    (a + b).nanoseconds = a.nanoseconds + b.nanoseconds := rfl

theorem le_iff {a b : Duration} : a ≤ b ↔ a.nanoseconds ≤ b.nanoseconds := Iff.rfl

theorem add_assoc (a b c : Duration) : a + b + c = a + (b + c) :=
  eq_of_nanoseconds (Nat.add_assoc _ _ _)

theorem add_zero (a : Duration) : a + zero = a := eq_of_nanoseconds (Nat.add_zero _)

theorem zero_add (a : Duration) : zero + a = a := eq_of_nanoseconds (Nat.zero_add _)

/-! ## The text of a span. -/

/-- The digits of `n` with leading zeros up to `width` places. -/
def padded (width n : Nat) : List Char :=
  let digits := Nat.toDigits 10 n
  List.replicate (width - digits.length) '0' ++ digits

/-- The decimals after the point: `places` digits without trailing zeros, and
no point when none is left. -/
def decimals (places n : Nat) : List Char :=
  match ((padded places n).reverse.dropWhile (· == '0')).reverse with
  | [] => []
  | digits => '.' :: digits

/-- A count of nanoseconds in a unit of `10 ^ places` nanoseconds. -/
def inUnit (places : Nat) (unit : String) (n : Nat) : String :=
  let whole := Nat.pow 10 places
  toString (n / whole) ++ String.ofList (decimals places (n % whole)) ++ unit

/-- The text of a span, such as `1.5s`, `100ms`, `12.345µs` or `0ns`. -/
def text (d : Duration) : String :=
  let n := d.nanoseconds
  if 1000000000 ≤ n then inUnit 9 "s" n
  else if 1000000 ≤ n then inUnit 6 "ms" n
  else if 1000 ≤ n then inUnit 3 "µs" n
  else inUnit 0 "ns" n

theorem decimals_zero (places : Nat) : decimals places 0 = [] := by
  have h : ∀ n, (List.replicate n '0').dropWhile (· == '0') = [] := by
    intro n
    induction n with
    | zero => rfl
    | succ n ih => simp [List.replicate_succ]
  have hd : Nat.toDigits 10 0 = ['0'] := by decide
  have hp : padded places 0 = List.replicate (places - 1 + 1) '0' := by
    simp [padded, hd, List.replicate_succ']
  simp [decimals, hp, h]

theorem text_of_seconds {n : Nat} (h : 0 < n) : (ofSeconds n).text = toString n ++ "s" := by
  have h1 : 1000000000 ≤ n * 1000000000 := by omega
  have hwhole : Nat.pow 10 9 = 1000000000 := by decide
  have h2 : n * 1000000000 % Nat.pow 10 9 = 0 := by
    rw [hwhole]
    omega
  have h3 : n * 1000000000 / Nat.pow 10 9 = n := by
    rw [hwhole]
    omega
  simp only [text, ofSeconds, h1, if_true, inUnit, h2, h3, decimals_zero]
  simp

end Duration

end RenderDesk
