import JavaCallGraph.Format.Json
import JavaCallGraph.Resolution

/-!
# Reports

* `FileFailure` — a file that was skipped, and why.
* `Report` — the numbers of an analysis.
* `Report.addTally` — the report with the counts of one more unit.
* `Report.unresolvedRatio` — the share of calls of which only the name is known.
* `Report.toJson` — the report as it is printed.
-/

namespace JavaCallGraph

structure FileFailure where
  path : String
  line : Option Nat
  message : String
  deriving DecidableEq, Repr, Inhabited

structure Report where
  filesScanned : Nat := 0
  unitsAnalyzed : Nat := 0
  libraryUnits : Nat := 0
  libraryTypes : Nat := 0
  methods : Nat := 0
  calls : Nat := 0
  unresolvedCalls : Nat := 0
  solvedCalls : Nat := 0
  enclosingCalls : Nat := 0
  inferredCalls : KeyMap Nat := .empty
  parseFailures : List FileFailure := []
  ioFailures : List FileFailure := []
  libraryFailures : List FileFailure := []
  endpoints : Nat := 0
  snippets : Nat := 0
  deriving Inhabited

/-! ## Ratios -/

/-- The quotient rounded to a whole number, a half to the even neighbour. -/
def roundDiv (num den : Nat) : Nat :=
  let q := num / den
  let twice := 2 * (num % den)
  if twice > den || (twice == den && q % 2 == 1) then q + 1 else q

/-- The nearest double to a quotient between zero and one: a numerator of 53 bits and the exponent of its
denominator, a power of two. -/
def nearestDouble (num den : Nat) : Nat × Nat :=
  let exponent := 53 + den.log2 - num.log2
  let exponent :=
    if num * Nat.pow 2 exponent / den ≥ Nat.pow 2 53 then exponent - 1 else exponent
  (roundDiv (num * Nat.pow 2 exponent) den, exponent)

/-- A quotient between zero and one with six places after the point, taken from the nearest double. -/
def ratioText (num den : Nat) : String :=
  let millionths :=
    if num == 0 || den == 0 then 0
    else
      let (mantissa, exponent) := nearestDouble num den
      roundDiv (mantissa * 1000000) (Nat.pow 2 exponent)
  let places := toString (millionths % 1000000)
  toString (millionths / 1000000) ++ "." ++ "".pushn '0' (6 - places.length) ++ places

namespace Report

def addTally (r : Report) (t : Tally) : Report :=
  { r with
    methods := r.methods + t.methods
    calls := r.calls + t.calls
    unresolvedCalls := r.unresolvedCalls + t.unresolved
    solvedCalls := r.solvedCalls + t.solved
    enclosingCalls := r.enclosingCalls + t.enclosing
    inferredCalls := t.inferred.toList.foldl (fun counts (tier, n) => Tally.addInferred counts tier n)
      r.inferredCalls }

def tally (r : Report) : Tally where
  methods := r.methods
  calls := r.calls
  solved := r.solvedCalls
  enclosing := r.enclosingCalls
  inferred := r.inferredCalls
  unresolved := r.unresolvedCalls

def unresolvedRatio (r : Report) : String := ratioText r.unresolvedCalls r.calls

def failedFiles (r : Report) : Nat := r.parseFailures.length + r.ioFailures.length

def failureJson (f : FileFailure) : Json :=
  .object ([("path", .string f.path)] ++ (f.line.map fun line => ("line", Json.ofNat line)).toList ++
    [("message", .string f.message)])

def toJson (r : Report) (elapsed : Nat) : Json :=
  .object [
    ("files_scanned", .ofNat r.filesScanned),
    ("units_analyzed", .ofNat r.unitsAnalyzed),
    ("library_units", .ofNat r.libraryUnits),
    ("library_types", .ofNat r.libraryTypes),
    ("methods", .ofNat r.methods),
    ("calls", .ofNat r.calls),
    ("unresolved_calls", .ofNat r.unresolvedCalls),
    ("exact_calls", .ofNat r.solvedCalls),
    ("enclosing_calls", .ofNat r.enclosingCalls),
    ("inferred_calls", .object (r.inferredCalls.toList.map fun (tier, n) => (tier, .ofNat n))),
    ("parse_failures", .array (r.parseFailures.map failureJson)),
    ("io_failures", .array (r.ioFailures.map failureJson)),
    ("library_failures", .array (r.libraryFailures.map failureJson)),
    ("endpoints", .ofNat r.endpoints),
    ("snippets", .ofNat r.snippets),
    ("elapsed_ms", .ofNat elapsed)]

end Report

end JavaCallGraph
