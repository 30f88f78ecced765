import SocksGateway.Text.Numeral
import SocksGateway.Text.Unprintable

namespace SocksGateway.Quoted

def isPlain (c : Char) : Bool :=
  if c.toNat < 128 then 32 ≤ c.toNat && c.toNat < 127
  else !Unprintable.extending.has c && !Unprintable.blank.has c

def char (c : Char) : List Char :=
  if c = '\x00' then ['\\', '0']
  else if c = '\t' then ['\\', 't']
  else if c = '\r' then ['\\', 'r']
  else if c = '\n' then ['\\', 'n']
  else if c = '\\' then ['\\', '\\']
  else if c = '\"' then ['\\', '\"']
  else if isPlain c then [c]
  else ['\\', 'u', '\x7b'] ++ Numeral.write 16 c.toNat ++ ['\x7d']

def chars (cs : List Char) : List Char := '\"' :: cs.flatMap char ++ ['\"']

def string (s : String) : String := String.ofList (chars s.toList)

theorem char_of_plain {c : Char} (h : isPlain c = true) (hq : c ≠ '\"') (hb : c ≠ '\\') :
    char c = [c] := by
  have hn : ∀ d : Char, isPlain d = false → c ≠ d := fun d hd he => by simp [he, hd] at h
  simp [char, hn '\x00' rfl, hn '\t' rfl, hn '\r' rfl, hn '\n' rfl, hb, hq, h]

end SocksGateway.Quoted
