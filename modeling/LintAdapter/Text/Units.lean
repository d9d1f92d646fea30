namespace LintAdapter.Text

def unitCount (c : Char) : Nat := if c.toNat < 0x10000 then 1 else 2

/-- The position at an offset, none beyond the end or between the two units of a character. -/
def unitPosition : (text : List Char) → (offset : Nat) → Option Nat
  | _, 0 => some 0
  | [], _ + 1 => none
  | c :: rest, offset + 1 =>
    if unitCount c ≤ offset + 1 then (unitPosition rest (offset + 1 - unitCount c)).map (· + 1)
    else none

end LintAdapter.Text
