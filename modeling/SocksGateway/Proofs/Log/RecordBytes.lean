import SocksGateway.Log.Entry

/-!
The bytes of a record. A record has no line break, and nothing in it but its front looks like the
front of a record: a quote inside a string is escaped, and the quote that ends a string is followed
by a brace or a comma.
-/
namespace SocksGateway

theorem ByteArray.toList_loop (bs : ByteArray) (i : Nat) (r : List UInt8) :
    ByteArray.toList.loop bs i r = r.reverse ++ bs.data.toList.drop i := by
  fun_induction ByteArray.toList.loop bs i r with
  | case1 i r h ih =>
    have hi : i < bs.data.toList.length := by simpa using h
    have hget : bs.get! i = bs.data.toList[i] := by simp [ByteArray.get!, h]
    rw [ih, List.drop_eq_getElem_cons hi, hget, List.reverse_cons, List.append_assoc]
    rfl
  | case2 i r h =>
    rw [List.drop_eq_nil_of_le (by simpa using Nat.le_of_not_lt h), List.append_nil]

namespace Utf8

def encode (cs : List Char) : List UInt8 := cs.flatMap String.utf8EncodeChar

theorem encode_append (as bs : List Char) : encode (as ++ bs) = encode as ++ encode bs :=
  List.flatMap_append

theorem encode_cons (c : Char) (cs : List Char) :
    encode (c :: cs) = String.utf8EncodeChar c ++ encode cs :=
  List.flatMap_cons

theorem toUTF8_ofList (cs : List Char) : (String.ofList cs).toUTF8.toList = encode cs := by
  rw [ByteArray.toList, ByteArray.toList_loop]
  show (String.ofList cs).toByteArray.data.toList = _
  rw [String.toByteArray_ofList]
  exact List.toList_data_toByteArray

theorem toNat_ofNat_high {n : Nat} (hl : 128 ≤ n) (hu : n < 256) :
    ¬ (UInt8.ofNat n).toNat < 128 := by
  rw [UInt8.toNat_ofNat', Nat.mod_eq_of_lt hu]
  exact Nat.not_lt.2 hl

theorem of_mem_encodeChar {c : Char} {b : UInt8} (hb : b.toNat < 128)
    (h : b ∈ String.utf8EncodeChar c) :
    c.toNat = b.toNat := by
  unfold String.utf8EncodeChar at h
  dsimp only at h
  split at h
  next hle =>
    rw [List.mem_singleton.1 h, UInt8.toNat_ofNat',
      Nat.mod_eq_of_lt (Nat.lt_of_le_of_lt hle (by decide))]
    rfl
  -- the bytes of any other character are 128 or more
  all_goals
    exfalso
    repeat' split at h
    all_goals
      simp only [List.mem_cons, List.not_mem_nil, or_false] at h
      rcases h with rfl | rfl | rfl | rfl <;> exact toNat_ofNat_high (by omega) (by omega) hb

theorem mem_of_mem_encode {cs : List Char} {c : Char} (hc : c.toNat < 128)
    (h : UInt8.ofNat c.toNat ∈ encode cs) : c ∈ cs := by
  obtain ⟨c', hm, h⟩ := List.mem_flatMap.1 h
  have hn : (UInt8.ofNat c.toNat).toNat = c.toNat := Nat.mod_eq_of_lt (Nat.lt_trans hc (by decide))
  have he := of_mem_encodeChar (hn.symm ▸ hc) h
  rw [hn] at he
  rwa [Char.toNat_inj.1 he] at hm

end Utf8

theorem JsonString.lt_of_not_plain {c : Char} (h : ¬ isPlain c = true) (hq : c ≠ '\"')
    (hb : c ≠ '\\') :
    c.toNat < 32 := by
  refine Nat.lt_of_not_le fun hle => h ?_
  unfold isPlain
  rw [Bool.and_eq_true, Bool.and_eq_true, bne_iff_ne, bne_iff_ne]
  exact ⟨⟨decide_eq_true hle, hq⟩, hb⟩

def isTame (c : Char) : Bool := c != '\n' && c != '\x7b'

/-- Texts without line breaks and opening braces. -/
def Tame (cs : List Char) : Prop := ∀ c ∈ cs, isTame c = true

namespace Tame

theorem nil : Tame [] := nofun

theorem append {as bs : List Char} (ha : Tame as) (hb : Tame bs) : Tame (as ++ bs) := by
  intro c hc
  rcases List.mem_append.1 hc with hc | hc
  · exact ha c hc
  · exact hb c hc

theorem cons {c : Char} {cs : List Char} (hc : isTame c = true) (hcs : Tame cs) : Tame (c :: cs) :=
  List.forall_mem_cons.2 ⟨hc, hcs⟩

theorem of_all {cs : List Char} (h : cs.all isTame = true) : Tame cs := List.all_eq_true.1 h

theorem replicate (n : Nat) {c : Char} (hc : isTame c = true) : Tame (List.replicate n c) := by
  intro x hx
  rw [List.eq_of_mem_replicate hx]
  exact hc

theorem of_digit {c : Char} (h : Numeral.isDigit 10 c = true) : isTame c = true := by
  unfold isTame
  rw [Bool.and_eq_true, bne_iff_ne, bne_iff_ne]
  refine ⟨?_, ?_⟩
  · rintro rfl
    revert h
    decide
  · rintro rfl
    revert h
    decide

theorem write (n : Nat) : Tame (Numeral.write 10 n) := fun c hc =>
  of_digit (Numeral.isDigit_of_mem_write (by decide) (by decide) n c hc)

theorem pad (width n : Nat) : Tame (Numeral.pad width n) := (replicate _ rfl).append (write n)

theorem digitChar : ∀ d, d < 16 → isTame (Nat.digitChar d) = true := by decide

theorem jsonChar {c : Char} (h : isTame c = true) : Tame (JsonString.char c) := by
  by_cases hp : JsonString.isPlain c = true
  · rw [JsonString.char_of_plain hp]
    exact cons h (of_all rfl)
  · unfold JsonString.char
    rw [if_neg hp]
    repeat' split
    all_goals try exact of_all rfl
    next hq hb _ _ _ _ _ =>
      have hlt := JsonString.lt_of_not_plain hp hq hb
      have hdigits :=
        cons (digitChar (c.toNat / 16) (by omega)) (cons (digitChar (c.toNat % 16) (by omega)) nil)
      exact append (@of_all ['\\', 'u', '0', '0'] rfl) hdigits

theorem jsonChars {cs : List Char} (h : Tame cs) : Tame (JsonString.chars cs) := by
  refine cons rfl (append ?_ (of_all rfl))
  intro c hc
  obtain ⟨x, hx, hc⟩ := List.mem_flatMap.1 hc
  exact jsonChar (h x hx) c hc

theorem yearChars (year : Nat) : Tame (Calendar.DateTime.yearChars year) := by
  unfold Calendar.DateTime.yearChars
  split
  · exact pad 4 year
  · exact cons rfl (write year)

theorem dateTime (d : Calendar.DateTime) : Tame d.chars := by
  have hpart {c : Char} (hc : isTame c = true) (width n : Nat) : Tame (c :: Numeral.pad width n) :=
    cons hc (pad width n)
  have hdate := ((yearChars d.date.year).append (hpart (c := '-') rfl 2 d.date.month)).append
    (hpart (c := '-') rfl 2 d.date.day)
  have hminute :=
    (hdate.append (hpart (c := 'T') rfl 2 d.hour)).append (hpart (c := ':') rfl 2 d.minute)
  have hmillis :=
    (hminute.append (hpart (c := ':') rfl 2 d.second)).append (hpart (c := '.') rfl 3 d.millisecond)
  exact hmillis.append (@of_all ['Z'] rfl)

theorem timeChars (t : Nat) : Tame (Calendar.timeChars t) := by
  unfold Calendar.timeChars
  split
  · exact dateTime _
  · exact nil

end Tame

namespace Entry

def leadChars (e : Entry) : List Char :=
  fieldChars "timestamp" (Numeral.write 10 e.timestamp.toNat) ++
    ',' :: fieldChars "time" (JsonString.chars (Calendar.timeChars e.timestamp.toNat)) ++
    ',' :: fieldChars "event" (JsonString.chars e.event.name.toList) ++
    ',' :: fieldChars e.payload.key []

theorem recordChars_eq (e : Entry) :
    e.recordChars = '\x7b' :: (e.leadChars ++ (e.payload.jsonChars ++ ['\x7d'])) := by
  simp [recordChars, objectChars, leadChars, fieldChars, List.intercalate_cons_cons]

theorem tame_fieldChars {key : String} {value : List Char} (hk : Tame key.toList)
    (hv : Tame value) :
    Tame (fieldChars key value) := hk.jsonChars.append (.cons rfl hv)

theorem tame_leadChars (e : Entry) : Tame e.leadChars := by
  have hevent : Tame e.event.name.toList := by
    cases e.event <;> exact .of_all (by decide)
  have hkey : Tame e.payload.key.toList := by
    cases e.payload with
    | description text => exact @Tame.of_all "description".toList (by decide)
    | data value => exact @Tame.of_all "data".toList (by decide)
  have hcomma {cs : List Char} (h : Tame cs) : Tame (',' :: cs) := .cons rfl h
  have hstamp : Tame (fieldChars "timestamp" (Numeral.write 10 e.timestamp.toNat)) :=
    tame_fieldChars (.of_all (by decide)) (.write _)
  have htime : Tame (fieldChars "time" (JsonString.chars (Calendar.timeChars e.timestamp.toNat))) :=
    tame_fieldChars (.of_all (by decide)) (Tame.timeChars _).jsonChars
  have hname : Tame (fieldChars "event" (JsonString.chars e.event.name.toList)) :=
    tame_fieldChars (.of_all (by decide)) hevent.jsonChars
  exact ((hstamp.append (hcomma htime)).append (hcomma hname)).append
    (hcomma (tame_fieldChars hkey .nil))

def recordBytes (e : Entry) : List UInt8 := Utf8.encode e.recordChars

theorem recordBytes_eq (e : Entry) :
    e.recordBytes = 123 :: Utf8.encode (e.leadChars ++ (e.payload.jsonChars ++ ['\x7d'])) := by
  rw [recordBytes, recordChars_eq]
  rfl

theorem lineBytes_eq (e : Entry) : e.lineBytes = e.recordBytes ++ [10] :=
  (Utf8.toUTF8_ofList _).trans (Utf8.encode_append _ _)

theorem newline_notMem_recordBytes (e : Entry) : 10 ∉ e.recordBytes := by
  intro h
  have hm : '\n' ∈ e.recordChars := Utf8.mem_of_mem_encode (c := '\n') (by decide) h
  rw [recordChars_eq, List.mem_cons, List.mem_append, List.mem_append] at hm
  rcases hm with hm | hm | hm | hm
  · cases hm
  · exact absurd (e.tame_leadChars _ hm) (by decide)
  · cases hp : e.payload with
    | description text =>
      rw [hp] at hm
      exact JsonString.newline_notMem_chars text.toList hm
    | data value =>
      rw [hp] at hm
      exact absurd (Tame.write value.toNat _ hm) (by decide)
  · exact absurd (List.mem_singleton.1 hm) (by decide)

def front : List UInt8 := [123, 34, 116]

theorem front_prefix (e : Entry) : front <+: e.recordBytes := by
  have hkey : JsonString.chars "timestamp".toList = ['\"', 't'] ++ "imestamp\"".toList := by decide
  have hlead : ∃ rest, e.recordChars = ['\x7b', '\"', 't'] ++ rest := by
    rw [recordChars_eq, leadChars, fieldChars, hkey]
    exact ⟨_, rfl⟩
  obtain ⟨rest, hr⟩ := hlead
  exact ⟨Utf8.encode rest, by rw [recordBytes, hr, Utf8.encode_append]; rfl⟩

theorem front_infix_of_notMem {as bs : List UInt8} (h : 123 ∉ as) (hf : front <:+: as ++ bs) :
    front <:+: bs := by
  induction as with
  | nil => exact hf
  | cons a as ih =>
    obtain ⟨ha, has⟩ := not_or.1 (h ∘ List.mem_cons.2)
    rcases List.infix_cons_iff.1 hf with ⟨rest, hp⟩ | hf
    · exact absurd (List.cons.inj hp).1 ha
    · exact ih has hf

theorem brace_notMem_encode {cs : List Char} (h : '\x7b' ∉ cs) : 123 ∉ Utf8.encode cs :=
  fun hm =>
  h (Utf8.mem_of_mem_encode (c := '\x7b') (by decide) hm)

theorem brace_notMem_of_tame {cs : List Char} (h : Tame cs) : 123 ∉ Utf8.encode cs :=
  brace_notMem_encode fun hm => absurd (h _ hm) (by decide)

theorem eq_brace_of_mem {c : Char} (h : '\x7b' ∈ JsonString.char c) : c = '\x7b' := by
  refine Classical.byContradiction fun hne => ?_
  by_cases hn : c = '\n'
  · subst hn
    exact absurd h (by decide)
  · have ht : isTame c = true := by
      rw [isTame, Bool.and_eq_true, bne_iff_ne, bne_iff_ne]
      exact ⟨hn, hne⟩
    exact absurd (Tame.jsonChar ht _ h) (by decide)

theorem not_quote_prefix_char (c : Char) (bs : List UInt8) :
    ¬ [34] <+: Utf8.encode (JsonString.char c) ++ bs := by
  have hhead : ∃ x xs, JsonString.char c = x :: xs ∧ x ≠ '\"' := by
    by_cases hp : JsonString.isPlain c = true
    · rw [JsonString.char_of_plain hp]
      refine ⟨c, [], rfl, ?_⟩
      rintro rfl
      revert hp
      decide
    · unfold JsonString.char
      rw [if_neg hp]
      repeat' split
      all_goals exact ⟨'\\', _, rfl, by decide⟩
  obtain ⟨x, xs, hx, hne⟩ := hhead
  rw [hx, Utf8.encode_cons]
  intro h
  obtain ⟨b, rest, hb⟩ := List.exists_cons_of_ne_nil (String.utf8EncodeChar_ne_nil (c := x))
  obtain ⟨t, ht⟩ := h
  rw [hb] at ht
  obtain rfl : 34 = b := (List.cons.inj ht).1
  have hmem : (34 : UInt8) ∈ String.utf8EncodeChar x := hb ▸ List.mem_cons_self
  exact hne (Char.toNat_inj.1 (Utf8.of_mem_encodeChar (by decide) hmem))

/-- Inside a string no quote follows a brace, and what ends the string is not followed by a
letter. -/
theorem not_front_infix_string (cs : List Char) :
    ¬ front <:+: Utf8.encode (cs.flatMap JsonString.char) ++ [34, 125] := by
  induction cs with
  | nil => decide
  | cons c cs ih =>
    rw [List.flatMap_cons, Utf8.encode_append, List.append_assoc]
    intro hf
    by_cases hc : '\x7b' ∈ JsonString.char c
    · obtain rfl := eq_brace_of_mem hc
      rcases List.infix_cons_iff.1 hf with hp | hf
      · have hquote : [34, 116] <+: Utf8.encode (cs.flatMap JsonString.char) ++ [34, 125] :=
          (List.cons_prefix_cons.1 hp).2
        cases cs with
        | nil => exact absurd hquote (by decide)
        | cons c cs =>
          rw [List.flatMap_cons, Utf8.encode_append, List.append_assoc] at hquote
          exact not_quote_prefix_char c _ ((List.prefix_append [34] [116]).trans hquote)
      · exact ih hf
    · exact ih (front_infix_of_notMem (brace_notMem_encode hc) hf)

theorem not_front_infix_rest (e : Entry) :
    ¬ front <:+: Utf8.encode (e.leadChars ++ (e.payload.jsonChars ++ ['\x7d'])) := by
  rw [Utf8.encode_append]
  intro hf
  have hf := front_infix_of_notMem (brace_notMem_of_tame e.tame_leadChars) hf
  cases hp : e.payload with
  | description text =>
    have hstring : Utf8.encode (JsonString.chars text.toList ++ ['\x7d']) =
        [34] ++ (Utf8.encode (text.toList.flatMap JsonString.char) ++ [34, 125]) := by
      rw [JsonString.chars, List.cons_append, List.cons_append, List.append_assoc, Utf8.encode_cons,
        Utf8.encode_append]
      rfl
    rw [hp, Payload.jsonChars, hstring] at hf
    exact not_front_infix_string text.toList (front_infix_of_notMem (by decide) hf)
  | data value =>
    rw [hp, Utf8.encode_append] at hf
    exact absurd (front_infix_of_notMem (brace_notMem_of_tame (.write value.toNat)) hf) (by decide)

/-- Nothing but a record itself ends in a record and is one. -/
theorem eq_nil_of_append {f : List UInt8} {e e' : Entry} (h : f ++ e.recordBytes = e'.recordBytes) :
    f = [] := by
  cases f with
  | nil => rfl
  | cons b f =>
    obtain ⟨rest, hr⟩ := e.front_prefix
    have htail : f ++ e.recordBytes =
        Utf8.encode (e'.leadChars ++ (e'.payload.jsonChars ++ ['\x7d'])) :=
      (List.cons.inj (h.trans e'.recordBytes_eq)).2
    exact absurd ⟨f, rest, by rw [← htail, ← hr, List.append_assoc]⟩ e'.not_front_infix_rest

end Entry
end SocksGateway
