/-! White space by the Unicode property White_Space. Trimming and the blank test of every
other module read this one table; no other notion of a blank occurs in the library. -/
namespace RegistrySeeding.Text

def blankRanges : List (Nat × Nat) :=
  [(0x09, 0x0D), (0x20, 0x20), (0x85, 0x85), (0xA0, 0xA0), (0x1680, 0x1680), (0x2000, 0x200A),
   (0x2028, 0x2029), (0x202F, 0x202F), (0x205F, 0x205F), (0x3000, 0x3000)]

def isBlank (c : Char) : Bool := blankRanges.any fun r => r.1 ≤ c.toNat && c.toNat ≤ r.2

def dropBlankStart (cs : List Char) : List Char := cs.dropWhile isBlank

def dropBlankEnd (cs : List Char) : List Char := (cs.reverse.dropWhile isBlank).reverse

def trimEnd (s : String) : String := String.ofList (dropBlankEnd s.toList)

def trim (s : String) : String := String.ofList (dropBlankEnd (dropBlankStart s.toList))

def blank (s : String) : Bool := s.toList.all isBlank

def nonBlank (s : String) : Option String := if blank s then none else some s

end RegistrySeeding.Text
