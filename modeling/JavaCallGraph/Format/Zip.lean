/-!
# Zip archives

Only the names of the entries are read. They stand in the directory at the end of an archive, which is
found through the last end record.

* `Zip.entryNames?` — the names of the entries of an archive.
-/

namespace JavaCallGraph.Zip

/-- The number in `width` bytes from `start`, lowest byte first. -/
def number? (bytes : ByteArray) (start : Nat) : (width : Nat) → Option Nat
  | 0 => some 0
  | width + 1 => do
    let low ← bytes.data[start]?
    return low.toNat + 256 * (← number? bytes (start + 1) width)

def endMark : Nat := 0x06054b50

def entryMark : Nat := 0x02014b50

def endSize : Nat := 22

def entrySize : Nat := 46

/-- The place of the last end record at or before `start`. -/
def endRecord? (bytes : ByteArray) : (start : Nat) → Option Nat
  | 0 => if number? bytes 0 4 == some endMark then some 0 else none
  | start + 1 =>
    if number? bytes (start + 1) 4 == some endMark then some (start + 1) else endRecord? bytes start

def names? (bytes : ByteArray) (start : Nat) : (count : Nat) → Option (List String)
  | 0 => some []
  | count + 1 => do
    guard ((← number? bytes start 4) == entryMark)
    let nameSize ← number? bytes (start + 28) 2
    let extraSize ← number? bytes (start + 30) 2
    let commentSize ← number? bytes (start + 32) 2
    let nameStart := start + entrySize
    let name ← String.fromUTF8? (bytes.extract nameStart (nameStart + nameSize))
    return name :: (← names? bytes (nameStart + nameSize + extraSize + commentSize) count)

/-- The names of the entries of an archive; none if the bytes are no archive. -/
def entryNames? (bytes : ByteArray) : Option (List String) := do
  guard (endSize ≤ bytes.size)
  let record ← endRecord? bytes (bytes.size - endSize)
  let count ← number? bytes (record + 10) 2
  let start ← number? bytes (record + 16) 4
  names? bytes start count

end JavaCallGraph.Zip
