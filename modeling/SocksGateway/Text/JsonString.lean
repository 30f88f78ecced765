import SocksGateway.Text.Numeral

namespace SocksGateway.JsonString

def isPlain (c : Char) : Bool := 32 ≤ c.toNat && c != '\"' && c != '\\'

def char (c : Char) : List Char :=
  if isPlain c then [c]
  else if c = '\"' then ['\\', '\"']
  else if c = '\\' then ['\\', '\\']
  else if c = '\x08' then ['\\', 'b']
  else if c = '\x0c' then ['\\', 'f']
  else if c = '\n' then ['\\', 'n']
  else if c = '\r' then ['\\', 'r']
  else if c = '\t' then ['\\', 't']
  else ['\\', 'u', '0', '0', Nat.digitChar (c.toNat / 16), Nat.digitChar (c.toNat % 16)]

def chars (cs : List Char) : List Char := '\"' :: cs.flatMap char ++ ['\"']

theorem char_of_plain {c : Char} (h : isPlain c = true) : char c = [c] := by simp [char, h]

theorem digitChar_ne_newline : ∀ d, d < 16 → Nat.digitChar d ≠ '\n' := by decide

theorem newline_notMem_char (c : Char) : '\n' ∉ char c := by
  by_cases h : isPlain c = true
  · rw [char_of_plain h]
    intro hc
    obtain rfl := List.mem_singleton.1 hc
    exact absurd h (by decide)
  · unfold char
    rw [if_neg h]
    repeat' split
    all_goals try decide
    next hq hb _ _ _ _ _ =>
      have hlt : c.toNat < 32 := by
        simp only [isPlain, Bool.and_eq_true, decide_eq_true_eq, bne_iff_ne] at h
        exact Nat.lt_of_not_le fun hle => h ⟨⟨hle, hq⟩, hb⟩
      have h1 := digitChar_ne_newline (c.toNat / 16) (by omega)
      have h2 := digitChar_ne_newline (c.toNat % 16) (by omega)
      simp [Ne.symm h1, Ne.symm h2]

theorem newline_notMem_chars (cs : List Char) : '\n' ∉ chars cs := by
  simp [chars, newline_notMem_char]

end SocksGateway.JsonString
