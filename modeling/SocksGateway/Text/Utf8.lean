/-!
Text read from bytes that may be cut anywhere: each longest run of bytes that begins a character and
does not finish it reads as one replacement character. Bytes below 128 read as themselves.
-/
namespace SocksGateway.Utf8

/-- A character under way: its bits so far, the bytes it lacks, and the range of the next of
them. -/
structure Unfinished where
  bits : Nat
  missing : Nat
  low : Nat
  high : Nat
  deriving DecidableEq, Repr

def Unfinished.takes (u : Unfinished) (b : Nat) : Bool := decide (u.low ≤ b ∧ b ≤ u.high)

/-- The ranges leave out longer spellings of a character, surrogates, and code points above
10FFFF. -/
def lead? (b : Nat) : Option Unfinished :=
  if 0xC2 ≤ b ∧ b ≤ 0xDF then some ⟨b - 0xC0, 1, 0x80, 0xBF⟩
  else if b = 0xE0 then some ⟨0, 2, 0xA0, 0xBF⟩
  else if b = 0xED then some ⟨0xD, 2, 0x80, 0x9F⟩
  else if 0xE1 ≤ b ∧ b ≤ 0xEF then some ⟨b - 0xE0, 2, 0x80, 0xBF⟩
  else if b = 0xF0 then some ⟨0, 3, 0x90, 0xBF⟩
  else if 0xF1 ≤ b ∧ b ≤ 0xF3 then some ⟨b - 0xF0, 3, 0x80, 0xBF⟩
  else if b = 0xF4 then some ⟨4, 3, 0x80, 0x8F⟩
  else none

def replacement : Char := '\ufffd'

def fresh (b : Nat) : List Char × Option Unfinished :=
  if b < 128 then ([Char.ofNat b], none)
  else match lead? b with
    | some u => ([], some u)
    | none => ([replacement], none)

def step : Option Unfinished → Nat → List Char × Option Unfinished
  | none, b => fresh b
  | some u, b =>
    if u.takes b then
      let bits := u.bits * 64 + (b - 0x80)
      if u.missing ≤ 1 then ([Char.ofNat bits], none)
      else ([], some ⟨bits, u.missing - 1, 0x80, 0xBF⟩)
    else (replacement :: (fresh b).1, (fresh b).2)

def decodeFrom : Option Unfinished → List UInt8 → List Char
  | none, [] => []
  | some _, [] => [replacement]
  | u, b :: rest => (step u b.toNat).1 ++ decodeFrom (step u b.toNat).2 rest

def decode (bytes : List UInt8) : List Char := decodeFrom none bytes

@[simp] theorem decode_nil : decode [] = [] := rfl

theorem step_of_takes {u : Unfinished} {b : Nat} (h : u.takes b = true) :
    step (some u) b =
      if u.missing ≤ 1 then ([Char.ofNat (u.bits * 64 + (b - 0x80))], none)
      else ([], some ⟨u.bits * 64 + (b - 0x80), u.missing - 1, 0x80, 0xBF⟩) := if_pos h

theorem step_of_not_takes {u : Unfinished} {b : Nat} (h : u.takes b = false) :
    step (some u) b = (replacement :: (fresh b).1, (fresh b).2) :=
  if_neg (by rw [h]; exact Bool.false_ne_true)

end SocksGateway.Utf8
