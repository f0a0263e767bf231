/-!
Names that are matched whatever their case.
-/

namespace ExprMachine.Caseless

/-- A character without its case. The long s and the sign for kelvin have no
case of their own. -/
def fold (c : Char) : Char :=
  if c.toNat = 0x17F then 's' else if c.toNat = 0x212A then 'k' else c.toLower

/-- Whether what is written is a name of letters from `a` to `z`, whatever the
case of either. -/
def same (name written : String) : Bool :=
  written.toList.map fold == name.toList.map fold

end ExprMachine.Caseless
