/-!
# What a plain scalar denotes

Words for nothing and for truth values, whole numbers in four bases and decimal fractions. A plain
scalar that is none of these is a text.
-/

set_option autoImplicit false

namespace BundleBuilder.Yaml

/-- Whether a text is a word for nothing. -/
def isNullWord (text : String) : Bool := ["null", "Null", "NULL", "~"].contains text

/-- The truth value that a text denotes. -/
def truthValue? (text : String) : Option Bool :=
  if ["true", "True", "TRUE"].contains text then some true
  else if ["false", "False", "FALSE"].contains text then some false
  else none

/-! ## Whole numbers -/

/-- A text without the sign in front of it, and whether that is a minus sign. -/
def splitSign : List Char → Bool × List Char
  | '-' :: rest => (true, rest)
  | '+' :: rest => (false, rest)
  | text => (false, text)

/-- The value of a digit. -/
def digitValue? (c : Char) : Option Nat :=
  if c.isDigit then some (c.toNat - 48)
  else if 'a' ≤ c ∧ c ≤ 'f' then some (c.toNat - 87)
  else if 'A' ≤ c ∧ c ≤ 'F' then some (c.toNat - 55)
  else none

/-- The number that digits after a value so far denote in a base. -/
def digitsValue? (base : Nat) (value : Nat) : List Char → Option Nat
  | [] => some value
  | c :: rest =>
    match digitValue? c with
    | some digit => if digit < base then digitsValue? base (value * base + digit) rest else none
    | none => none

/-- The number that a non-empty list of digits denotes in a base. -/
def number? (base : Nat) (digits : List Char) : Option Nat :=
  if digits.isEmpty then none else digitsValue? base 0 digits

/-- The number that a text without a sign denotes: digits after `0x`, `0o` or `0b`, or decimal
digits without superfluous zeros in front. -/
def magnitude? : List Char → Option Nat
  | '0' :: 'x' :: digits => number? 16 digits
  | '0' :: 'o' :: digits => number? 8 digits
  | '0' :: 'b' :: digits => number? 2 digits
  | ['0'] => some 0
  | '0' :: _ => none
  | digits => number? 10 digits

/-- The whole number that a text denotes, if it fits into 128 bits. -/
def wholeNumber? (text : String) : Option Int :=
  let (negative, body) := splitSign text.toList
  match magnitude? body with
  | none => none
  | some magnitude =>
    if negative then
      if magnitude ≤ Nat.pow 2 127 then some (-(magnitude : Int)) else none
    else if magnitude < Nat.pow 2 128 then some (magnitude : Int) else none

/-- Whether a text is a row of digits with superfluous zeros in front. -/
def hasLeadingZero (text : String) : Bool :=
  match (splitSign text.toList).2 with
  | '0' :: c :: rest => (c :: rest).all Char.isDigit
  | _ => false

/-! ## Decimal fractions -/

/-- The least number that is not rounded to a finite one of 64 bits. -/
def overflowBound : Nat := Nat.pow 2 1024 - Nat.pow 2 970

/-- Whether digits, scaled by a power of ten, denote a finite number of 64 bits. The number of
digits decides except near the bound. -/
def isFiniteScaled (digits : List Char) (exponent : Int) : Bool :=
  let significant := digits.dropWhile (· == '0')
  let order : Int := significant.length + exponent
  if significant.isEmpty || decide (order < 309) then true
  else if 309 < order then false
  else
    let value := (number? 10 significant).getD 0
    if 0 ≤ exponent then decide (value * Nat.pow 10 exponent.toNat < overflowBound)
    else decide (value < overflowBound * Nat.pow 10 (-exponent).toNat)

/-- The exponent after the digits of a decimal fraction. -/
def exponent? : List Char → Option Int
  | [] => some 0
  | c :: rest =>
    if c = 'e' ∨ c = 'E' then
      let (negative, digits) := splitSign rest
      match number? 10 (if digits.all Char.isDigit then digits else []) with
      | none => none
      | some magnitude => some (if negative then -(magnitude : Int) else magnitude)
    else none

/-- Whether a text without a plus sign is a finite decimal fraction. -/
def isFiniteFraction (text : List Char) : Bool :=
  let body := (splitSign text).2
  let whole := body.takeWhile Char.isDigit
  let rest := body.dropWhile Char.isDigit
  let (fraction, rest) :=
    match rest with
    | '.' :: rest => (rest.takeWhile Char.isDigit, rest.dropWhile Char.isDigit)
    | rest => ([], rest)
  match exponent? rest with
  | none => false
  | some exponent =>
    !(whole ++ fraction).isEmpty &&
      isFiniteScaled (whole ++ fraction) (exponent - fraction.length)

/-- Whether a text denotes a number of 64 bits: a finite decimal fraction, or one of the words for
infinity and for no number. -/
def isFraction (text : String) : Bool :=
  let unsigned := if text.toList.head? = some '+' then text.toList.tail else text.toList
  if text.toList.head? = some '+' ∧ unsigned.head?.any (fun c => c == '+' || c == '-') then false
  else
    [".inf", ".Inf", ".INF"].contains (String.ofList unsigned) ||
      ["-.inf", "-.Inf", "-.INF", ".nan", ".NaN", ".NAN"].contains text ||
      isFiniteFraction unsigned

end BundleBuilder.Yaml
