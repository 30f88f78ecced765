import SocksGateway.Proofs.Log.LineReader
import SocksGateway.Proofs.Text.ByteOrder
import SocksGateway.Text.Utf8

namespace SocksGateway.Utf8

/-- The bytes that a character under way lacks. -/
inductive Finishes : Unfinished → List UInt8 → Char → Prop
  | last {u : Unfinished} {b : UInt8} {c : Char} (takes : u.takes b.toNat = true)
      (missing : u.missing = 1) (bits : u.bits * 64 + (b.toNat - 0x80) = c.toNat) :
      Finishes u [b] c
  | more {u : Unfinished} {b : UInt8} {bs : List UInt8} {c : Char} (takes : u.takes b.toNat = true)
      (missing : 1 < u.missing)
      (rest : Finishes ⟨u.bits * 64 + (b.toNat - 0x80), u.missing - 1, 0x80, 0xBF⟩ bs c) :
      Finishes u (b :: bs) c

/-- Bytes that go on with no character. -/
def Apart (bs : List UInt8) : Prop := ∀ b ∈ bs.head?, b.toNat < 0x80 ∨ 0xBF < b.toNat

theorem decodeFrom_finishes {u : Unfinished} {bs : List UInt8} {c : Char} (h : Finishes u bs c)
    (rest : List UInt8) : decodeFrom (some u) (bs ++ rest) = c :: decode rest := by
  induction h with
  | @last u b c takes missing bits =>
    rw [List.singleton_append, decodeFrom, step_of_takes takes, if_pos (Nat.le_of_eq missing), bits,
      Char.ofNat_toNat]
    rfl
  | more takes missing _ ih =>
    rw [List.cons_append, decodeFrom, step_of_takes takes, if_neg (Nat.not_le.2 missing)]
    exact ih

theorem decodeFrom_apart {u : Unfinished} (hlow : 0x80 ≤ u.low) (hhigh : u.high ≤ 0xBF)
    {rest : List UInt8} (h : Apart rest) :
    decodeFrom (some u) rest = replacement :: decode rest := by
  cases rest with
  | nil => rfl
  | cons b rest =>
    have hb := h b rfl
    have hnot : u.takes b.toNat = false := decide_eq_false (by omega)
    rw [decodeFrom, step_of_not_takes hnot]
    rfl

theorem decodeFrom_cut {u : Unfinished} {bs : List UInt8} {c : Char} (h : Finishes u bs c)
    (hlow : 0x80 ≤ u.low) (hhigh : u.high ≤ 0xBF) {front rest : List UInt8} (hf : front <+: bs)
    (hne : front ≠ bs) (hr : Apart rest) :
    decodeFrom (some u) (front ++ rest) = replacement :: decode rest := by
  induction h generalizing front with
  | last =>
    cases front with
    | nil => exact decodeFrom_apart hlow hhigh hr
    | cons b front =>
      obtain ⟨rfl, hnil⟩ := List.cons_prefix_cons.1 hf
      exact absurd (congrArg _ (List.prefix_nil.1 hnil)) hne
  | more takes missing _ ih =>
    cases front with
    | nil => exact decodeFrom_apart hlow hhigh hr
    | cons b front =>
      obtain ⟨rfl, htail⟩ := List.cons_prefix_cons.1 hf
      rw [List.cons_append, decodeFrom, step_of_takes takes, if_neg (Nat.not_le.2 missing)]
      exact ih (Nat.le_refl _) (Nat.le_refl _) htail fun he => hne (congrArg _ he)

theorem takes_digit {u : Unfinished} {d : Nat} (hd : d < 64) (hlow : u.low ≤ d + 128)
    (hhigh : d + 128 ≤ u.high) :
    u.takes (UInt8.ofNat (d + 128)).toNat = true ∧ (UInt8.ofNat (d + 128)).toNat - 0x80 = d := by
  rw [UInt8.toNat_ofNat_of_lt' (show _ < 256 by omega), Nat.add_sub_cancel]
  exact ⟨decide_eq_true ⟨hlow, hhigh⟩, rfl⟩

theorem finishes_last {u : Unfinished} {c : Char} {d : Nat} (hd : d < 64) (hlow : u.low ≤ d + 128)
    (hhigh : d + 128 ≤ u.high) (hmissing : u.missing = 1) (hc : u.bits * 64 + d = c.toNat) :
    Finishes u [UInt8.ofNat (d + 128)] c := by
  obtain ⟨htakes, hdigit⟩ := takes_digit hd hlow hhigh
  exact .last htakes hmissing (by rw [hdigit, hc])

theorem finishes_more {u : Unfinished} {bs : List UInt8} {c : Char} {d n : Nat} (hd : d < 64)
    (hlow : u.low ≤ d + 128) (hhigh : d + 128 ≤ u.high) (hmissing : u.missing = n + 2)
    (h : Finishes ⟨u.bits * 64 + d, n + 1, 0x80, 0xBF⟩ bs c) :
    Finishes u (UInt8.ofNat (d + 128) :: bs) c := by
  obtain ⟨htakes, hdigit⟩ := takes_digit hd hlow hhigh
  refine .more htakes (by omega) ?_
  rw [hdigit, hmissing]
  exact h

theorem lead?_two {q : Nat} (hl : 2 ≤ q) (hh : q < 32) :
    lead? (q + 192) = some ⟨q, 1, 0x80, 0xBF⟩ := by
  rw [lead?, if_pos (by omega), Nat.add_sub_cancel]

theorem lead?_three {q : Nat} (h : q < 16) :
    lead? (q + 224) =
      some ⟨q, 2, if q = 0 then 0xA0 else 0x80, if q = 13 then 0x9F else 0xBF⟩ := by
  unfold lead?
  by_cases h₀ : q = 0
  · subst h₀; rfl
  by_cases h₁₃ : q = 13
  · subst h₁₃; rfl
  rw [if_neg (by omega), if_neg (by omega), if_neg (by omega), if_pos (by omega), if_neg h₀,
    if_neg h₁₃, Nat.add_sub_cancel]

theorem lead?_four {q : Nat} (h : q < 5) :
    lead? (q + 240) =
      some ⟨q, 3, if q = 0 then 0x90 else 0x80, if q = 4 then 0x8F else 0xBF⟩ := by
  unfold lead?
  by_cases h₀ : q = 0
  · subst h₀; rfl
  by_cases h₄ : q = 4
  · subst h₄; rfl
  rw [if_neg (by omega), if_neg (by omega), if_neg (by omega), if_neg (by omega),
    if_neg (by omega), if_pos (by omega), if_neg h₀, if_neg h₄, Nat.add_sub_cancel]

theorem bounds_of_lead? {b : Nat} {u : Unfinished} (h : lead? b = some u) :
    0x80 ≤ u.low ∧ u.high ≤ 0xBF := by
  unfold lead? at h
  iterate 7
    split at h
    · rw [← Option.some.inj h]
      exact ⟨Nat.le_of_ble_eq_true rfl, Nat.le_of_ble_eq_true rfl⟩
  cases h

/-- A character is a byte below 128, or opened by its first byte and finished by the others. -/
theorem encodeChar_opens (c : Char) :
    (∃ b, String.utf8EncodeChar c = [b] ∧ b.toNat < 128 ∧ Char.ofNat b.toNat = c) ∨
    ∃ b bs u, String.utf8EncodeChar c = b :: bs ∧ 128 ≤ b.toNat ∧ lead? b.toNat = some u ∧
      Finishes u bs c := by
  have hmax := toNat_lt_max c
  have hvalid : c.toNat < 0xD800 ∨ 0xDFFF < c.toNat := by
    have h := c.valid
    simp only [UInt32.isValidChar, Nat.isValidChar] at h
    show c.val.toNat < _ ∨ _ < c.val.toNat
    omega
  rcases encodeChar_cases c with ⟨hc, he⟩ | ⟨hc, hc', he⟩ | ⟨hc, hc', he⟩ | ⟨hc, he⟩
  · have hb := UInt8.toNat_ofNat_of_lt' (show c.toNat < 256 by omega)
    exact .inl ⟨_, he, by rw [hb]; exact hc, by rw [hb, Char.ofNat_toNat]⟩
  · have hb := UInt8.toNat_ofNat_of_lt' (show c.toNat / 64 + 192 < 256 by omega)
    refine .inr ⟨_, _, _, he, by omega, hb ▸ lead?_two (by omega) (by omega), ?_⟩
    exact finishes_last (by omega) (by dsimp; omega) (by dsimp; omega) rfl (by dsimp; omega)
  -- the bounds on the second byte leave out longer spellings, surrogates, and what is too large
  · have hb := UInt8.toNat_ofNat_of_lt' (show c.toNat / 64 / 64 + 224 < 256 by omega)
    refine .inr ⟨_, _, _, he, by omega, hb ▸ lead?_three (by omega), ?_⟩
    refine finishes_more (by omega) (by dsimp; split <;> omega) (by dsimp; split <;> omega) rfl ?_
    exact finishes_last (by omega) (by dsimp; omega) (by dsimp; omega) rfl (by dsimp; omega)
  · have hb := UInt8.toNat_ofNat_of_lt' (show c.toNat / 64 / 64 / 64 + 240 < 256 by omega)
    refine .inr ⟨_, _, _, he, by omega, hb ▸ lead?_four (by omega), ?_⟩
    refine finishes_more (by omega) (by dsimp; split <;> omega) (by dsimp; split <;> omega) rfl ?_
    refine finishes_more (by omega) (by dsimp; omega) (by dsimp; omega) rfl ?_
    exact finishes_last (by omega) (by dsimp; omega) (by dsimp; omega) rfl (by dsimp; omega)

theorem decode_cons_of_lt {b : UInt8} (h : b.toNat < 128) (rest : List UInt8) :
    decode (b :: rest) = Char.ofNat b.toNat :: decode rest := by
  simp [decode, decodeFrom, step, fresh, h]

theorem decode_cons_of_lead {b : UInt8} {u : Unfinished} (hb : 128 ≤ b.toNat)
    (h : lead? b.toNat = some u) (rest : List UInt8) :
    decode (b :: rest) = decodeFrom (some u) rest := by
  simp [decode, decodeFrom, step, fresh, Nat.not_lt.2 hb, h]

theorem decode_encodeChar_append (c : Char) (rest : List UInt8) :
    decode (String.utf8EncodeChar c ++ rest) = c :: decode rest := by
  rcases encodeChar_opens c with ⟨b, he, hb, hc⟩ | ⟨b, bs, u, he, hb, hu, hf⟩
  · rw [he, List.singleton_append, decode_cons_of_lt hb, hc]
  · rw [he, List.cons_append, decode_cons_of_lead hb hu, decodeFrom_finishes hf]

theorem decode_encode_append (cs : List Char) (rest : List UInt8) :
    decode (encode cs ++ rest) = cs ++ decode rest := by
  induction cs with
  | nil => rfl
  | cons c cs ih =>
    rw [encode_cons, List.append_assoc, decode_encodeChar_append, ih, List.cons_append]

theorem decode_cut {c : Char} {front rest : List UInt8} (hf : front <+: String.utf8EncodeChar c)
    (hnil : front ≠ []) (hne : front ≠ String.utf8EncodeChar c) (hr : Apart rest) :
    decode (front ++ rest) = replacement :: decode rest := by
  obtain ⟨b, front, rfl⟩ := List.exists_cons_of_ne_nil hnil
  rcases encodeChar_opens c with ⟨b', he, -⟩ | ⟨b', bs, u, he, hb, hu, hfin⟩
  · rw [he] at hf hne
    obtain ⟨rfl, hempty⟩ := List.cons_prefix_cons.1 hf
    exact absurd (congrArg _ (List.prefix_nil.1 hempty)) hne
  · rw [he] at hf hne
    obtain ⟨rfl, htail⟩ := List.cons_prefix_cons.1 hf
    obtain ⟨hlow, hhigh⟩ := bounds_of_lead? hu
    rw [List.cons_append, decode_cons_of_lead hb hu]
    exact decodeFrom_cut hfin hlow hhigh htail (fun h => hne (congrArg _ h)) hr

/-- The front of a text, and a replacement character where a character of it was cut. -/
def Front (read cs : List Char) : Prop :=
  ∃ front, front <+: cs ∧ (read = front ∨ read = front ++ [replacement])

theorem Front.cons {read cs : List Char} (h : Front read cs) (c : Char) :
    Front (c :: read) (c :: cs) := by
  obtain ⟨front, hf, hread⟩ := h
  exact ⟨c :: front, List.cons_prefix_cons.2 ⟨rfl, hf⟩, hread.imp (congrArg _) (congrArg _)⟩

/-- The bytes of a text, cut anywhere, read as its front, and what comes after them reads as it
does alone. -/
theorem decode_prefix {bs : List UInt8} {cs : List Char} (h : bs <+: encode cs) :
    Front (decode bs) cs ∧ ∀ rest, Apart rest →
      decode (bs ++ rest) = decode bs ++ decode rest := by
  induction cs generalizing bs with
  | nil =>
    obtain rfl : bs = [] := List.prefix_nil.1 h
    exact ⟨⟨[], List.nil_prefix, .inl rfl⟩, fun rest _ => rfl⟩
  | cons c cs ih =>
    rw [encode_cons] at h
    by_cases hwhole : String.utf8EncodeChar c <+: bs
    · obtain ⟨bs, rfl⟩ := hwhole
      obtain ⟨hfront, hrest⟩ := ih ((List.prefix_append_right_inj _).1 h)
      rw [decode_encodeChar_append]
      refine ⟨hfront.cons c, fun rest hr => ?_⟩
      rw [List.append_assoc, decode_encodeChar_append, hrest rest hr, List.cons_append]
    · have hcut : bs <+: String.utf8EncodeChar c :=
        (List.prefix_or_prefix_of_prefix h (List.prefix_append _ _)).resolve_right hwhole
      have hne : bs ≠ String.utf8EncodeChar c := fun he => hwhole (he ▸ List.prefix_refl _)
      by_cases hnil : bs = []
      · subst hnil
        exact ⟨⟨[], List.nil_prefix, .inl rfl⟩, fun rest _ => rfl⟩
      · have hread : decode bs = [replacement] := by
          have hend : decode (bs ++ []) = replacement :: decode [] :=
            decode_cut hcut hnil hne nofun
          rwa [List.append_nil] at hend
        rw [hread]
        exact ⟨⟨[], List.nil_prefix, .inr rfl⟩, fun rest hr => decode_cut hcut hnil hne hr⟩

example : decode [0x61, 0xE2, 0x82, 0x62] = ['a', replacement, 'b'] := by decide

example : decode [0xE2, 0x82, 0xAC, 0xF0, 0x9F, 0x98, 0x80] = ['€', '😀'] := by decide

theorem encode_of_decode? {bs : List UInt8} {cs : List Char} (h : decode? bs = some cs) :
    encode cs = bs := by
  obtain ⟨text, htext, rfl⟩ := Option.map_eq_some_iff.1 h
  unfold String.fromUTF8? at htext
  split at htext
  · have hbytes : text.toByteArray = bs.toByteArray := by
      cases htext
      rfl
    rw [← toUTF8_ofList, String.ofList_toList]
    show text.toByteArray.toList = bs
    rw [hbytes, ByteArray.toList, ByteArray.toList_loop]
    exact List.toList_data_toByteArray
  · cases htext

theorem decode_eq_of_decode? {bs : List UInt8} {cs : List Char} (h : decode? bs = some cs) :
    decode bs = cs := by
  have hread := decode_encode_append cs []
  rwa [encode_of_decode? h, List.append_nil, decode_nil, List.append_nil] at hread

end SocksGateway.Utf8
