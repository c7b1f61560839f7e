import Mathlib.Data.List.Basic

/-! Reading a text line by line with Go's `bufio.Scanner`: its lines, and when a line is too long
for its buffer. -/
namespace LineScanner

def newline : UInt8 := 10

/-- The carriage return of a line is not part of it. -/
def dropCR (line : List UInt8) : List UInt8 :=
  if line.getLast? = some 13 then line.dropLast else line

/-- `bufio.ScanLines`: what comes behind the last newline is a line unless it is empty. -/
def scanLines (text : List UInt8) : List (List UInt8) :=
  let parts := text.splitOn newline
  (if parts.getLast? = some [] then parts.dropLast else parts).map dropCR

def maxScanTokenSize : Nat := 64 * 1024

/-- A line fills the buffer before its end is found. The end of the text is found with its last
bytes, or by a read of its own that needs room. -/
def tooLong (endsWithData : Bool) (text : List UInt8) : Bool :=
  let parts := text.splitOn newline
  let rest := (parts.getLastD []).length
  parts.dropLast.any (maxScanTokenSize ≤ ·.length) ||
    if endsWithData then maxScanTokenSize < rest else maxScanTokenSize ≤ rest

/-- A text of whole lines. -/
def joinLines (lines : List (List UInt8)) : List UInt8 := lines.flatMap (· ++ [newline])

theorem splitOn_joinLines {lines : List (List UInt8)} (h : ∀ line ∈ lines, newline ∉ line) :
    (joinLines lines).splitOn newline = lines ++ [[]] := by
  induction lines with
  | nil => rfl
  | cons line lines ih =>
    obtain ⟨hline, hlines⟩ := List.forall_mem_cons.mp h
    have hjoin : joinLines (line :: lines) = line ++ newline :: joinLines lines := by
      simp [joinLines]
    rw [hjoin, List.splitOn_append_cons_self_of_not_mem hline, ih hlines, List.cons_append]

theorem scanLines_joinLines {lines : List (List UInt8)} (h : ∀ line ∈ lines, newline ∉ line) :
    scanLines (joinLines lines) = lines.map dropCR := by
  unfold scanLines
  dsimp only
  rw [splitOn_joinLines h]
  simp

end LineScanner
