/-!
# Digits

Numbers as they are written in digits, for the formats that settings, graphs and snippets are read from.

* `digitsValue` — decimal digits.
* `digitIn?`, `numberIn?` — one digit and several in a base up to sixteen.
-/

namespace JavaCallGraph.Text

def digitsValue (ds : List Char) : Nat := ds.foldl (fun n d => n * 10 + (d.toNat - 48)) 0

def digitIn? (base : Nat) (c : Char) : Option Nat :=
  let value? : Option Nat :=
    if c.isDigit then some (c.toNat - 48)
    else if 'a' ≤ c && c ≤ 'f' then some (c.toNat - 87)
    else if 'A' ≤ c && c ≤ 'F' then some (c.toNat - 55)
    else none
  value?.filter (· < base)

/-- The number that some digits in a base stand for; without digits there is none. -/
def numberIn? (base : Nat) (cs : List Char) : Option Nat :=
  if cs.isEmpty then none
  else cs.foldl (fun n? c => n?.bind fun n => (digitIn? base c).map (n * base + ·)) (some 0)

end JavaCallGraph.Text
