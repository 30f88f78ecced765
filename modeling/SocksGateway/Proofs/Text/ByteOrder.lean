import SocksGateway.Proofs.Log.RecordBytes

namespace SocksGateway

namespace Utf8

theorem lt_ofNat_iff {m n : Nat} (hm : m < 256) (hn : n < 256) :
    UInt8.ofNat m < UInt8.ofNat n ↔ m < n := by
  rw [UInt8.lt_iff_toNat_lt, UInt8.toNat_ofNat', UInt8.toNat_ofNat',
    Nat.mod_eq_of_lt hm, Nat.mod_eq_of_lt hn]

theorem ofNat_inj {m n : Nat} (hm : m < 256) (hn : n < 256) :
    UInt8.ofNat m = UInt8.ofNat n ↔ m = n := by
  rw [← UInt8.toNat_inj, UInt8.toNat_ofNat', UInt8.toNat_ofNat',
    Nat.mod_eq_of_lt hm, Nat.mod_eq_of_lt hn]

theorem toNat_lt_max (c : Char) : c.toNat < 1114112 := by
  have h := c.valid
  simp only [UInt32.isValidChar, Nat.isValidChar] at h
  show c.val.toNat < _
  omega

/-- The lead byte and the digits to base 64 that follow it. -/
theorem encodeChar_cases (c : Char) :
    (c.toNat < 128 ∧ String.utf8EncodeChar c = [UInt8.ofNat c.toNat]) ∨
    (128 ≤ c.toNat ∧ c.toNat < 2048 ∧
      String.utf8EncodeChar c = [UInt8.ofNat (c.toNat / 64 + 192),
        UInt8.ofNat (c.toNat % 64 + 128)]) ∨
    (2048 ≤ c.toNat ∧ c.toNat < 65536 ∧
      String.utf8EncodeChar c = [UInt8.ofNat (c.toNat / 64 / 64 + 224),
        UInt8.ofNat (c.toNat / 64 % 64 + 128),
        UInt8.ofNat (c.toNat % 64 + 128)]) ∨
    (65536 ≤ c.toNat ∧ String.utf8EncodeChar c = [UInt8.ofNat (c.toNat / 64 / 64 / 64 + 240),
      UInt8.ofNat (c.toNat / 64 / 64 % 64 + 128), UInt8.ofNat (c.toNat / 64 % 64 + 128),
      UInt8.ofNat (c.toNat % 64 + 128)]) := by
  have hmax := toNat_lt_max c
  have hval : c.val.toNat = c.toNat := rfl
  have h4096 : c.toNat / 4096 = c.toNat / 64 / 64 := by omega
  have h262144 : c.toNat / 262144 = c.toNat / 64 / 64 / 64 := by omega
  unfold String.utf8EncodeChar
  simp only [hval, h4096, h262144]
  split
  next h => exact .inl ⟨by omega, rfl⟩
  next h₁ =>
    split
    next h =>
      exact .inr
        (.inl ⟨by omega, by omega, by rw [Nat.mod_eq_of_lt (a := c.toNat / 64) (by omega)]⟩)
    next h₂ =>
      split
      next h =>
        exact .inr
          (.inr (.inl ⟨by omega, by omega, by rw [Nat.mod_eq_of_lt (b := 16) (by omega)]⟩))
      next h₃ =>
        exact .inr (.inr (.inr ⟨by omega, by rw [Nat.mod_eq_of_lt (b := 8) (by omega)]⟩))

/-- The first byte at which two encodings differ decides, whatever follows. -/
theorem encodeChar_append_lt {c d : Char} (h : c < d) (as bs : List UInt8) :
    String.utf8EncodeChar c ++ as < String.utf8EncodeChar d ++ bs := by
  have hlt : c.toNat < d.toNat := UInt32.lt_iff_toNat_lt.1 h
  have hc := toNat_lt_max c
  have hd := toNat_lt_max d
  rcases encodeChar_cases c with ⟨_, ec⟩ | ⟨_, _, ec⟩ | ⟨_, _, ec⟩ | ⟨_, ec⟩ <;>
  rcases encodeChar_cases d with ⟨_, ed⟩ | ⟨_, _, ed⟩ | ⟨_, _, ed⟩ | ⟨_, ed⟩ <;>
  · rw [ec, ed]
    simp (disch := omega) only [List.cons_append, List.nil_append, List.cons_lt_cons_iff,
      lt_ofNat_iff, ofNat_inj]
    omega

theorem encode_ne_nil (c : Char) (cs : List Char) : encode (c :: cs) ≠ [] := by
  rw [encode_cons]
  rcases encodeChar_cases c with ⟨_, ec⟩ | ⟨_, _, ec⟩ | ⟨_, _, ec⟩ | ⟨_, ec⟩ <;>
  simp [ec]

theorem encode_lt {cs ds : List Char} (h : cs < ds) : encode cs < encode ds := by
  induction cs generalizing ds with
  | nil =>
    cases ds with
    | nil => exact absurd h (List.not_lt_nil _)
    | cons d ds =>
      obtain ⟨b, bs, hb⟩ := List.exists_cons_of_ne_nil (encode_ne_nil d ds)
      rw [hb]
      exact List.nil_lt_cons b bs
  | cons c cs ih =>
    cases ds with
    | nil => exact absurd h (List.not_lt_nil _)
    | cons d ds =>
      rw [encode_cons, encode_cons]
      rcases List.cons_lt_cons_iff.1 h with hlt | ⟨rfl, hrest⟩
      · exact encodeChar_append_lt hlt _ _
      · exact List.append_left_lt (ih hrest)

def bytes (s : String) : List UInt8 := s.toUTF8.toList

theorem bytes_eq (s : String) : bytes s = encode s.toList := by
  rw [bytes, ← toUTF8_ofList, String.ofList_toList]

theorem bytes_lt_iff {s t : String} : bytes s < bytes t ↔ s < t := by
  have hlt : ∀ {s t : String}, s < t → bytes s < bytes t := by
    intro s t h
    rw [bytes_eq, bytes_eq]
    exact encode_lt (String.lt_iff.1 h)
  refine ⟨fun h => ?_, hlt⟩
  by_cases hst : s < t
  · exact hst
  · by_cases hts : t < s
    · exact absurd (hlt hts) (List.lt_asymm h)
    · rw [String.le_antisymm (String.not_lt.1 hts) (String.not_lt.1 hst)] at h
      exact absurd h (List.lt_irrefl _)

end Utf8
end SocksGateway
