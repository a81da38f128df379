/-! Addition of 64-bit words. One build of a program wraps where a sum does not fit in a word, the
other stops there. -/
namespace RegistrySeeding

inductive Overflow where
  | wraps
  | panics
  deriving DecidableEq, Repr

namespace Overflow

def add (overflow : Overflow) (a b : UInt64) : Option UInt64 :=
  match overflow with
  | .wraps => some (a + b)
  | .panics => if a.toNat + b.toNat < UInt64.size then some (a + b) else none

def sum (overflow : Overflow) (words : List UInt64) (start : UInt64) : Option UInt64 :=
  words.foldlM overflow.add start

theorem sumWraps (words : List UInt64) (start : UInt64) :
    Overflow.wraps.sum words start = some (words.foldl (· + ·) start) := by
  induction words generalizing start with
  | nil => rfl
  | cons w rest ih => exact ih (start + w)

end Overflow
end RegistrySeeding
