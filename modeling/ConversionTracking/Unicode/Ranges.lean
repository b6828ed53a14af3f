/-!
Classes of code points as ascending tables of inclusive ranges.
-/

namespace ConversionTracking.Unicode

def inRanges (table : List (Nat × Nat)) (code : Nat) : Bool :=
  table.any fun range => range.1 ≤ code && code ≤ range.2

private def searchRanges (table : Array (Nat × Nat)) (code : Nat) : Nat → Nat → Nat → Bool
  | 0, _, _ => false
  | fuel + 1, low, high =>
      if low < high then
        let middle := (low + high) / 2
        match table[middle]? with
        | none => false
        | some (first, last) =>
            if code < first then searchRanges table code fuel low middle
            else if last < code then searchRanges table code fuel (middle + 1) high
            else true
      else false

def inTable (table : Array (Nat × Nat)) (code : Nat) : Bool :=
  searchRanges table code (table.size + 1) 0 table.size

end ConversionTracking.Unicode
