import JavaCallGraph.Text.Cut
import JavaCallGraph.Text.Digit

/-!
# Texts that YAML reads as something else

A YAML text without quotes may stand for null, a truth value or a number. Such a text is quoted when it
is meant as a text.

* `Yaml.isFiniteDecimal` — a decimal number that is not too large for a double.
* `Yaml.isTyped` — does a text without quotes stand for something other than a text?
-/

namespace JavaCallGraph.Yaml

export Text (digitsValue digitIn? numberIn?)

/-- Is a text a whole number in base two, eight or sixteen, of at most 128 bits? -/
def isRadixNumber (cs : List Char) : Bool :=
  let (negative, cs) := match cs with
    | '+' :: cs => (false, cs)
    | '-' :: cs => (true, cs)
    | _ => (false, cs)
  let number? := match cs with
    | '0' :: 'x' :: ds => numberIn? 16 ds
    | '0' :: 'o' :: ds => numberIn? 8 ds
    | '0' :: 'b' :: ds => numberIn? 2 ds
    | _ => none
  number?.any fun n => if negative then n ≤ Nat.pow 2 127 else n < Nat.pow 2 128

/-- Is a text a number with zeros in front, which YAML does not take for a number? -/
def isPadded (cs : List Char) : Bool :=
  let cs := match cs with
    | '+' :: cs => cs
    | '-' :: cs => cs
    | _ => cs
  match cs with
  | '0' :: d :: ds => (d :: ds).all Char.isDigit
  | _ => false

/-- Is `digits` times ten to the `exponent` less than what rounds to infinity as a double? -/
def isFinite (digits : List Char) (exponent : Int) : Bool :=
  let digits := digits.dropWhile (· == '0')
  let limit := Nat.pow 2 1024 - Nat.pow 2 970
  if digits.isEmpty || digits.length + exponent < 0 then true
  else if digits.length + exponent > 400 then false
  else if exponent ≥ 0 then digitsValue digits * Nat.pow 10 exponent.toNat < limit
  else digitsValue digits < limit * Nat.pow 10 (-exponent).toNat

/-- The exponent that ends a number: nothing or `e`, a sign and digits. -/
def exponent? : List Char → Option Int
  | [] => some 0
  | c :: cs =>
    if c == 'e' || c == 'E' then
      let (negative, ds) := match cs with
        | '+' :: ds => (false, ds)
        | '-' :: ds => (true, ds)
        | _ => (false, cs)
      if ds.isEmpty || !ds.all Char.isDigit then none
      else
        let value : Int := digitsValue ds
        some (if negative then -value else value)
    else none

/-- Is a text without a sign a decimal number that is finite as a double? Digits must stand before or
after the point. -/
def isUnsignedDecimal (cs : List Char) : Bool :=
  let whole := cs.takeWhile Char.isDigit
  let rest := cs.dropWhile Char.isDigit
  let (fraction, rest) := match rest with
    | '.' :: rest => (rest.takeWhile Char.isDigit, rest.dropWhile Char.isDigit)
    | _ => ([], rest)
  !(whole.isEmpty && fraction.isEmpty) &&
    (exponent? rest).any fun e => isFinite (whole ++ fraction) (e - fraction.length)

def isFiniteDecimal : List Char → Bool
  | '+' :: cs => isUnsignedDecimal cs
  | '-' :: cs => isUnsignedDecimal cs
  | cs => isUnsignedDecimal cs

def reserved : List String :=
  ["", "null", "Null", "NULL", "~", "true", "True", "TRUE", "false", "False", "FALSE", ".inf",
    ".Inf", ".INF", "+.inf", "+.Inf", "+.INF", "-.inf", "-.Inf", "-.INF", ".nan", ".NaN", ".NAN"]

/-- Does a text without quotes stand for something other than a text, or look like a number? -/
def isTyped (s : String) : Bool :=
  let cs := s.toList
  reserved.contains s || isRadixNumber cs || isPadded cs || isFiniteDecimal cs

end JavaCallGraph.Yaml
