/-! Text from bytes. The scan walks the bytes once and yields a character for each well-formed
sequence and a gap for each maximal ill-formed part, so that a strict and a forgiving reading
share one pass. -/
namespace RegistrySeeding.Text.Utf8

structure Pending where
  need : Nat
  low : Nat
  high : Nat
  bits : Nat
  deriving DecidableEq, Repr

inductive Step where
  | char (c : Char)
  | gap
  | more (p : Pending)
  deriving DecidableEq, Repr

def first (b : Nat) : Step :=
  if b < 0x80 then .char (Char.ofNat b)
  else if b < 0xC2 then .gap
  else if b < 0xE0 then .more ⟨1, 0x80, 0xBF, b - 0xC0⟩
  else if b = 0xE0 then .more ⟨2, 0xA0, 0xBF, 0⟩
  else if b = 0xED then .more ⟨2, 0x80, 0x9F, 0xD⟩
  else if b < 0xF0 then .more ⟨2, 0x80, 0xBF, b - 0xE0⟩
  else if b = 0xF0 then .more ⟨3, 0x90, 0xBF, 0⟩
  else if b < 0xF4 then .more ⟨3, 0x80, 0xBF, b - 0xF0⟩
  else if b = 0xF4 then .more ⟨3, 0x80, 0x8F, 4⟩
  else .gap

def Pending.admits (p : Pending) (b : Nat) : Bool := p.low ≤ b && b ≤ p.high

def Pending.take (p : Pending) (b : Nat) : Step :=
  let bits := p.bits * 64 + (b - 0x80)
  if p.need ≤ 1 then .char (Char.ofNat bits) else .more ⟨p.need - 1, 0x80, 0xBF, bits⟩

def scan : Option Pending → List (Option Char) → List UInt8 → List (Option Char)
  | none, out, [] => out.reverse
  | some _, out, [] => (none :: out).reverse
  | pending, out, b :: rest =>
    -- A byte that a pending sequence refuses ends that sequence as a gap and starts the next one.
    let (step, out) := match pending with
      | none => (first b.toNat, out)
      | some p => if p.admits b.toNat then (p.take b.toNat, out) else (first b.toNat, none :: out)
    match step with
    | .char c => scan none (some c :: out) rest
    | .gap => scan none (none :: out) rest
    | .more p => scan (some p) out rest

def decode? (bytes : List UInt8) : Option String :=
  ((scan none [] bytes).mapM id).map String.ofList

def decodeLossy (bytes : List UInt8) : String :=
  String.ofList ((scan none [] bytes).map (·.getD '\uFFFD'))

def encodeChar (c : Char) : List UInt8 := (String.ofList [c]).toUTF8.toList

def encode (s : String) : List UInt8 := s.toUTF8.toList

def size (c : Char) : Nat :=
  if c.toNat < 0x80 then 1 else if c.toNat < 0x800 then 2 else if c.toNat < 0x10000 then 3 else 4

theorem sizePos (c : Char) : 0 < size c := by
  unfold size
  repeat' split
  all_goals decide

theorem sizeLe (c : Char) : size c ≤ 4 := by
  unfold size
  repeat' split
  all_goals decide

def length (cs : List Char) : Nat := cs.foldl (fun n c => n + size c) 0

end RegistrySeeding.Text.Utf8
