import SocksGateway.Proofs.Log.RecordBytes
import SocksGateway.Proofs.Text.Numerals
import SocksGateway.Text.Reader

/-!
JSON texts and the values they stand for. The reader takes every JSON text: blanks around the parts,
numbers with fraction and exponent, strings with all escapes, nested arrays and objects. An object
is its members in the order of the text. Main statements: `readString_write`, a written string is
read back, and `read_objectChars`, a written object is.
-/
namespace SocksGateway

/-- A number is an integer times a power of ten. -/
inductive Json
  | null
  | bool (value : Bool)
  | number (digits exponent : Int)
  | string (text : String)
  | array (items : List Json)
  | object (members : List (String × Json))

namespace Json

def isBlank (c : Char) : Bool := c == ' ' || c == '\t' || c == '\n' || c == '\r'

def skipBlanks (cs : List Char) : List Char := cs.dropWhile isBlank

def escapes : List (Char × Char) :=
  [('\"', '\"'), ('\\', '\\'), ('/', '/'), ('b', '\x08'), ('f', '\x0c'), ('n', '\n'),
    ('r', '\r'), ('t', '\t')]

def readUnit : Reader Nat := fun cs => do
  let (ds, cs) ← Reader.exactly 4 (Numeral.isDigit 16) cs
  some (Numeral.value 16 ds, cs)

/-- Two surrogates stand for one character, in that order; one alone stands for none. -/
def readUnits : Reader Char := fun cs => do
  let (n, cs) ← readUnit cs
  if 0xD800 ≤ n ∧ n ≤ 0xDBFF then
    let (m, cs) ← readUnit (← Reader.skipAll ['\\', 'u'] cs)
    if 0xDC00 ≤ m ∧ m ≤ 0xDFFF then
      some (Char.ofNat (0x10000 + (n - 0xD800) * 0x400 + (m - 0xDC00)), cs)
    else none
  else if 0xDC00 ≤ n ∧ n ≤ 0xDFFF then none
  else some (Char.ofNat n, cs)

def readEscape : Reader Char
  | [] => none
  | c :: cs => if c = 'u' then readUnits cs else (escapes.lookup c).map (·, cs)

def readChar : Reader Char
  | [] => none
  | c :: cs =>
    if c = '\\' then readEscape cs
    else if 32 ≤ c.toNat ∧ c ≠ '\"' then some (c, cs)
    else none

def readString : Reader String := fun cs => do
  let (text, cs) := Reader.many readChar (← Reader.skip '\"' cs)
  let cs ← Reader.skip '\"' cs
  some (String.ofList text, cs)

def readDigits : Reader (List Char) := Reader.some1 (Numeral.isDigit 10)

def readFraction (cs : List Char) : Option (List Char × List Char) :=
  match Reader.skip '.' cs with
  | some cs => readDigits cs
  | none => some ([], cs)

def readSign (cs : List Char) : Int × List Char :=
  match Reader.skip '-' cs, Reader.skip '+' cs with
  | some cs, _ => (-1, cs)
  | none, some cs => (1, cs)
  | none, none => (1, cs)

def readExponent (cs : List Char) : Option (Int × List Char) :=
  match (Reader.skip 'e' cs).or (Reader.skip 'E' cs) with
  | some cs => do
    let (sign, cs) := readSign cs
    let (ds, cs) ← readDigits cs
    some (sign * Numeral.value 10 ds, cs)
  | none => some (0, cs)

/-- No further digit stands behind a zero in front. -/
def readNumber : Reader Json := fun cs => do
  let (sign, cs) := match Reader.skip '-' cs with
    | some cs => (-1, cs)
    | none => ((1 : Int), cs)
  let (whole, cs) ← readDigits cs
  if whole.head? = some '0' ∧ 1 < whole.length then none
  else do
    let (fraction, cs) ← readFraction cs
    let (exponent, cs) ← readExponent cs
    some (number (sign * Numeral.value 10 (whole ++ fraction)) (exponent - fraction.length), cs)

def readName (name : List Char) (value : Json) : Reader Json := fun cs =>
  (Reader.skipAll name cs).map (value, ·)

section
variable {α : Type}

/-- Blanks count neither before nor behind a part. -/
def padded (r : Reader α) : Reader α := fun cs => do
  let (a, cs) ← r (skipBlanks cs)
  some (a, skipBlanks cs)

def bracketed (opening closing : Char) (r : Reader α) : Reader (List α) := fun cs => do
  let cs ← Reader.skip opening cs
  match Reader.skip closing (skipBlanks cs) with
  | some cs => some ([], cs)
  | none =>
    let (as, cs) ← Reader.sepBy (padded r) ',' cs
    some (as, ← Reader.skip closing cs)

def as (f : α → Json) (r : Reader α) : Reader Json := fun cs => (r cs).map fun p => (f p.1, p.2)

end

def readMember (value : Reader Json) : Reader (String × Json) := fun cs => do
  let (key, cs) ← readString cs
  let (v, cs) ← value (skipBlanks (← Reader.skip ':' (skipBlanks cs)))
  some ((key, v), cs)

def read : (depth : Nat) → Reader Json
  | 0 => fun _ => none
  | depth + 1 =>
    Reader.orElse (as object (bracketed '\x7b' '\x7d' (readMember (read depth)))) <|
    Reader.orElse (as array (bracketed '[' ']' (read depth))) <|
    Reader.orElse (as string readString) <|
    Reader.orElse (readName ['n', 'u', 'l', 'l'] null) <|
    Reader.orElse (readName ['t', 'r', 'u', 'e'] (bool true)) <|
    Reader.orElse (readName ['f', 'a', 'l', 's', 'e'] (bool false)) readNumber

/-- One value and nothing else. A text has no more levels than characters. -/
def ofChars? (cs : List Char) : Option Json := Reader.whole (padded (read (cs.length + 1))) cs

section
variable {α β : Type} {r : Reader α} {write : β → List Char} {value : β → α}
  {next : List Char → Prop} {bs : List β}
  (hr : ∀ b ∈ bs, ∀ cs, next cs →
    r (write b ++ cs) = some (value b, cs)) (hn : ∀ b ∈ bs, ∀ cs, next (write b ++ cs))
  {rest : List Char} (hrest : next rest) (hend : r rest = none)
include hr hn hrest hend

theorem manyFrom_write (turns : List Char) (hturns : bs.length ≤ turns.length) (taken : List α) :
    Reader.manyFrom r turns taken (bs.flatMap write ++ rest) =
      (taken.reverse ++ bs.map value, rest) := by
  induction bs generalizing turns taken with
  | nil => cases turns <;> simp [Reader.manyFrom, hend]
  | cons b bs ih =>
    obtain ⟨hr, hrs⟩ := List.forall_mem_cons.1 hr
    obtain ⟨hn, hns⟩ := List.forall_mem_cons.1 hn
    cases turns with
    | nil => exact absurd hturns (Nat.not_succ_le_zero _)
    | cons t turns =>
      have hnext : next (bs.flatMap write ++ rest) := by
        cases bs with
        | nil => exact hrest
        | cons b' bs =>
          rw [List.flatMap_cons, List.append_assoc]
          exact hns b' List.mem_cons_self _
      have hmore := ih hrs hns turns (Nat.le_of_succ_le_succ hturns) (value b :: taken)
      simp [Reader.manyFrom, hr _ hnext, hmore]

omit hr hn hrest hend in
theorem length_le_flatMap (hne : ∀ b ∈ bs, write b ≠ []) :
    bs.length ≤ (bs.flatMap write).length := by
  induction bs with
  | nil => exact Nat.zero_le _
  | cons b bs ih =>
    obtain ⟨hb, hbs⟩ := List.forall_mem_cons.1 hne
    have hpos := List.length_pos_iff.2 hb
    have hle := ih hbs
    rw [List.flatMap_cons, List.length_append, List.length_cons]
    omega

/-- A text with that many values has as many characters, and so as many turns. -/
theorem many_write (hne : ∀ b ∈ bs, write b ≠ []) :
    Reader.many r (bs.flatMap write ++ rest) = (bs.map value, rest) := by
  have hturns : bs.length ≤ (bs.flatMap write ++ rest).length := by
    rw [List.length_append]
    exact Nat.le_add_right_of_le (length_le_flatMap hne)
  exact manyFrom_write hr hn hrest hend _ hturns []

end

/-- Values with a separator between each two, where a value may be followed by the separator. -/
theorem sepBy_write {α β : Type} {r : Reader α} {write : β → List Char} {value : β → α}
    {next : List Char → Prop} {sep : Char} {b : β} {bs : List β}
    (hr : ∀ x ∈ b :: bs, ∀ cs, next cs → r (write x ++ cs) = some (value x, cs))
    (hn : ∀ cs, next (sep :: cs)) {rest : List Char} (hrest : next rest)
    (hend : Reader.skip sep rest = none) :
    Reader.sepBy r sep (write b ++ (bs.flatMap (fun x => sep :: write x) ++ rest)) =
      some ((b :: bs).map value, rest) := by
  obtain ⟨hb, hbs⟩ := List.forall_mem_cons.1 hr
  have hmany : Reader.many (fun cs => do r (← Reader.skip sep cs))
      (bs.flatMap (fun x => sep :: write x) ++ rest) = (bs.map value, rest) := by
    refine many_write (fun x hx cs hcs => ?_) (fun x _ cs => hn (write x ++ cs))
      hrest (by simp [hend]) nofun
    simp [hbs x hx cs hcs]
  have hnext : next (bs.flatMap (fun x => sep :: write x) ++ rest) := by
    cases bs with
    | nil => exact hrest
    | cons x bs => exact hn _
  rw [Reader.sepBy, hb _ hnext]
  show some (value b :: (Reader.many _ _).1, (Reader.many _ _).2) = _
  rw [hmany]
  rfl

theorem readUnit_control {n : Nat} (h : n < 256) (rest : List Char) :
    readUnit ('0' :: '0' :: Nat.digitChar (n / 16) :: Nat.digitChar (n % 16) :: rest) =
      some (n, rest) := by
  have hdigit : ∀ d, d < 16 → Numeral.isDigit 16 (Nat.digitChar d) = true := by decide
  have hhigh := Numeral.digitValue_digitChar (n / 16) (by omega)
  have hlow := Numeral.digitValue_digitChar (n % 16) (by omega)
  have hvalue : Numeral.value 16 ['0', '0', Nat.digitChar (n / 16),
      Nat.digitChar (n % 16)] = n := by
    show 16 * (16 * 0 + Numeral.digitValue (Nat.digitChar (n / 16))) +
        Numeral.digitValue (Nat.digitChar (n % 16)) = n
    rw [hhigh, hlow]
    omega
  have hzero : Numeral.isDigit 16 '0' = true := by decide
  simp [readUnit, Reader.exactly, hzero, hdigit (n / 16) (by omega),
    hdigit (n % 16) (by omega), hvalue]

theorem readUnits_control {c : Char} (h : c.toNat < 32) (rest : List Char) :
    readUnits ('0' :: '0' :: Nat.digitChar (c.toNat / 16) :: Nat.digitChar (c.toNat % 16) :: rest) =
      some (c, rest) := by
  have hunit := readUnit_control (Nat.lt_trans h (by decide)) rest
  have hhigh : ¬ (0xD800 ≤ c.toNat ∧ c.toNat ≤ 0xDBFF) := by omega
  have hlow : ¬ (0xDC00 ≤ c.toNat ∧ c.toNat ≤ 0xDFFF) := by omega
  simp only [readUnits, hunit, Option.bind_eq_bind, Option.bind_some, if_neg hhigh,
    if_neg hlow, Char.ofNat_toNat]

theorem readChar_escaped {c d : Char} (hu : c ≠ 'u') (h : escapes.lookup c = some d)
    (rest : List Char) :
    readChar ('\\' :: c :: rest) = some (d, rest) := by
  simp [readChar, readEscape, hu, h]

theorem readChar_write (c : Char) (rest : List Char) :
    readChar (JsonString.char c ++ rest) = some (c, rest) := by
  by_cases hp : JsonString.isPlain c = true
  · have hplain := hp
    rw [JsonString.isPlain, Bool.and_eq_true, Bool.and_eq_true, decide_eq_true_eq,
      bne_iff_ne, bne_iff_ne] at hplain
    obtain ⟨⟨hle, hq⟩, hb⟩ := hplain
    simp [JsonString.char_of_plain hp, readChar, hle, hq, hb]
  · unfold JsonString.char
    rw [if_neg hp]
    repeat' split
    -- all but the last are escapes of one letter
    all_goals try next h => subst h; exact readChar_escaped (by decide) rfl rest
    next hq hb _ _ _ _ _ =>
      have hlt := JsonString.lt_of_not_plain hp hq hb
      simpa [readChar, readEscape] using readUnits_control hlt rest

theorem char_ne_nil (c : Char) : JsonString.char c ≠ [] := by
  intro h
  have hread := readChar_write c []
  rw [h] at hread
  cases hread

theorem readString_write (cs rest : List Char) :
    readString (JsonString.chars cs ++ rest) = some (String.ofList cs, rest) := by
  have hmany : Reader.many readChar (cs.flatMap JsonString.char ++ '\"' :: rest) =
      (cs.map id, '\"' :: rest) := by
    have hchar : ∀ c ∈ cs, ∀ tail, True →
        readChar (JsonString.char c ++ tail) = some (id c, tail) :=
      fun c _ tail _ => readChar_write c tail
    have hend : readChar ('\"' :: rest) = none := by simp [readChar]
    exact many_write hchar (fun _ _ _ => trivial) trivial hend fun c _ => char_ne_nil c
  simp [readString, JsonString.chars, hmany]

def Follows (rest : List Char) : Prop := rest.head? = some ',' ∨ rest.head? = some '\x7d'

theorem Follows.skip {rest : List Char} (h : Follows rest) {c : Char}
    (hc : ',' ≠ c ∧ '\x7d' ≠ c) :
    Reader.skip c rest = none := by
  refine Reader.skip_of_head? fun hhead => ?_
  rcases h with h | h
  · exact hc.1 (Option.some.inj (h.symm.trans hhead))
  · exact hc.2 (Option.some.inj (h.symm.trans hhead))

theorem Follows.stops {rest : List Char} (h : Follows rest) : Numeral.Stops 10 rest := by
  intro c hc
  rcases h with h | h
  all_goals
    obtain rfl := Option.some.inj (h.symm.trans hc)
    decide

theorem Follows.skipBlanks {rest : List Char} (h : Follows rest) : skipBlanks rest = rest := by
  cases rest with
  | nil => rfl
  | cons c rest =>
    rcases h with h | h
    all_goals
      obtain rfl := Option.some.inj h
      rfl

theorem readDigits_write (n : Nat) {rest : List Char} (h : Numeral.Stops 10 rest) :
    readDigits (Numeral.write 10 n ++ rest) = some (Numeral.write 10 n, rest) := by
  have hspan := Numeral.span_append (Numeral.isDigit_of_mem_write (by decide) (by decide) n) h
  have hne : Numeral.write 10 n ≠ [] := Numeral.write_ne_nil (by decide) n
  simp [readDigits, Reader.some1, hspan.1, hspan.2, hne]

theorem write_eq_cons (n : Nat) :
    ∃ d ds, Numeral.write 10 n = d :: ds ∧ Numeral.isDigit 10 d = true := by
  have hne : Numeral.write 10 n ≠ [] := Numeral.write_ne_nil (by decide) n
  obtain ⟨d, ds, hd⟩ := List.exists_cons_of_ne_nil hne
  exact ⟨d, ds, hd, Numeral.isDigit_of_mem_write (by decide) (by decide) n d
    (hd ▸ List.mem_cons_self)⟩

theorem skip_write {c : Char} (hc : Numeral.isDigit 10 c = false) (n : Nat) (rest : List Char) :
    Reader.skip c (Numeral.write 10 n ++ rest) = none := by
  obtain ⟨d, ds, hd, hdigit⟩ := write_eq_cons n
  refine Reader.skip_of_head? fun hhead => ?_
  rw [hd] at hhead
  obtain rfl : d = c := Option.some.inj hhead
  exact absurd (hc.symm.trans hdigit) (by decide)

theorem skipBlanks_write (n : Nat) (rest : List Char) :
    skipBlanks (Numeral.write 10 n ++ rest) = Numeral.write 10 n ++ rest := by
  obtain ⟨d, ds, hd, hdigit⟩ := write_eq_cons n
  have hblank : isBlank d = false := by
    rw [← Bool.not_eq_true, isBlank]
    simp only [Bool.or_eq_true, beq_iff_eq]
    rintro (((rfl | rfl) | rfl) | rfl) <;> exact absurd hdigit (by decide)
  rw [hd, List.cons_append, skipBlanks, List.dropWhile_cons_of_neg (by simp [hblank])]

theorem readNumber_write (n : Nat) {rest : List Char} (h : Follows rest) :
    readNumber (Numeral.write 10 n ++ rest) = some (number n 0, rest) := by
  have hzero : ¬ ((Numeral.write 10 n).head? = some '0' ∧ 1 < (Numeral.write 10 n).length) := by
    rintro ⟨hhead, hlength⟩
    rcases Nat.eq_zero_or_pos n with rfl | hpos
    · exact absurd hlength (by decide)
    · exact Numeral.head?_write_ne_zero (by decide) (by decide) hpos hhead
  have hsign : Reader.skip '-' (Numeral.write 10 n ++ rest) = none := skip_write (by decide) n rest
  have hdigits := readDigits_write n h.stops
  have hvalue : Numeral.value 10 (Numeral.write 10 n) = n :=
    Numeral.value_write (by decide) (by decide) n
  simp (disch := decide) [readNumber, hsign, hdigits, hzero, readFraction,
    readExponent, h.skip, hvalue]

def Reads (depth : Nat) (cs : List Char) (v : Json) : Prop :=
  ∀ rest, Follows rest → read depth (skipBlanks (cs ++ rest)) = some (v, rest)

theorem reads_string (depth : Nat) (cs : List Char) :
    Reads (depth + 1) (JsonString.chars cs) (string (String.ofList cs)) := by
  intro rest _
  have hstring := readString_write cs rest
  have hblank : skipBlanks (JsonString.chars cs ++ rest) = JsonString.chars cs ++ rest := rfl
  have hskip {c : Char} (hc : '\"' ≠ c) : Reader.skip c (JsonString.chars cs ++ rest) = none :=
    Reader.skip_cons_ne hc _
  simp (disch := decide) [hblank, read, Reader.orElse, as, bracketed, hskip, hstring]

/-- No digit is the front of any other value. -/
theorem reads_number (depth n : Nat) : Reads (depth + 1) (Numeral.write 10 n) (number n 0) := by
  intro rest h
  have hnumber := readNumber_write n h
  simp (disch := decide) [skipBlanks_write, read, Reader.orElse, as, bracketed,
    skip_write, readString, readName, Reader.skipAll, hnumber]

structure Member where
  key : String
  chars : List Char
  value : Json

namespace Member

def field (m : Member) : List Char := Entry.fieldChars m.key m.chars

def pair (m : Member) : String × Json := (m.key, m.value)

end Member

theorem read_field {depth : Nat} {m : Member} (hm : Reads depth m.chars m.value)
    {rest : List Char} (h : Follows rest) :
    padded (readMember (read depth)) (m.field ++ rest) = some (m.pair, rest) := by
  have hkey := readString_write m.key.toList (':' :: (m.chars ++ rest))
  rw [String.ofList_toList] at hkey
  have hfront : skipBlanks (m.field ++ rest) =
      JsonString.chars m.key.toList ++ ':' :: (m.chars ++ rest) := by
    show m.field ++ rest = _
    simp [Member.field, Entry.fieldChars]
  have hcolon : skipBlanks (':' :: (m.chars ++ rest)) = ':' :: (m.chars ++ rest) := rfl
  simp [padded, hfront, readMember, hkey, hcolon, hm rest h, h.skipBlanks, Member.pair]

theorem intercalate_comma (cs : List Char) (css : List (List Char)) :
    [','].intercalate (cs :: css) = cs ++ css.flatMap fun cs => ',' :: cs := by
  induction css generalizing cs with
  | nil => simp
  | cons cs' css ih => simp [List.intercalate_cons_cons, ih]

theorem objectChars_cons (m : Member) (ms : List Member) :
    Entry.objectChars ((m :: ms).map fun m => (m.key, m.chars)) =
      '\x7b' :: (m.field ++ ms.flatMap (fun m => ',' :: m.field) ++ ['\x7d']) := by
  have hfields : (((m :: ms).map fun m => (m.key, m.chars)).map fun f => Entry.fieldChars f.1 f.2) =
      m.field :: ms.map Member.field := List.map_map
  rw [Entry.objectChars, hfields, intercalate_comma, List.flatMap_map, List.cons_append]

theorem read_objectChars {depth : Nat} {m : Member} {ms : List Member}
    (hr : ∀ x ∈ m :: ms, Reads depth x.chars x.value) (rest : List Char) :
    read (depth + 1) (Entry.objectChars ((m :: ms).map fun m => (m.key, m.chars)) ++ rest) =
      some (object ((m :: ms).map Member.pair), rest) := by
  have hcomma (cs : List Char) : Follows (',' :: cs) := .inl rfl
  have hclosing : Follows ('\x7d' :: rest) := .inr rfl
  have hsep : Reader.sepBy (padded (readMember (read depth))) ','
      (m.field ++ (ms.flatMap (fun m => ',' :: m.field) ++ '\x7d' :: rest)) =
      some ((m :: ms).map Member.pair, '\x7d' :: rest) :=
    sepBy_write (fun x hx _ ht => read_field (hr x hx) ht) hcomma hclosing rfl
  have hopen :
      Reader.skip '\x7d' (skipBlanks
      (m.field ++ (ms.flatMap (fun m => ',' :: m.field) ++ '\x7d' :: rest))) =
      none := rfl
  have hbraces : bracketed '\x7b' '\x7d' (readMember (read depth))
      ('\x7b' :: (m.field ++ (ms.flatMap (fun m => ',' :: m.field) ++ '\x7d' :: rest))) =
      some ((m :: ms).map Member.pair, rest) := by
    simp only [bracketed, Reader.skip_cons_self, hopen, hsep, Option.bind_eq_bind, Option.bind_some]
  rw [objectChars_cons, List.cons_append, List.append_assoc, List.append_assoc,
    List.singleton_append, read, Reader.orElse, as, hbraces]
  rfl

theorem ofChars?_objectChars {ms : List Member} (hne : ms ≠ [])
    (hr : ∀ depth, ∀ x ∈ ms, Reads (depth + 1) x.chars x.value) :
    ofChars? (Entry.objectChars (ms.map fun m => (m.key, m.chars))) =
      some (object (ms.map Member.pair)) := by
  obtain ⟨m, ms, rfl⟩ := List.exists_cons_of_ne_nil hne
  obtain ⟨tail, htail⟩ : ∃ tail,
      Entry.objectChars ((m :: ms).map fun m => (m.key, m.chars)) = '\x7b' :: tail :=
    ⟨_, objectChars_cons m ms⟩
  have hread := read_objectChars (hr tail.length) []
  rw [List.append_nil, htail] at hread
  have hfront : skipBlanks ('\x7b' :: tail) = '\x7b' :: tail := rfl
  have hnil : skipBlanks [] = [] := rfl
  rw [htail, ofChars?, Reader.whole, padded, List.length_cons, hfront, hread]
  simp [hnil]

example :
    ofChars? ((" \x7b\"a\" : [-1.50e2, true]," ++
      "\"b\":\"\\u00e9\\ud83d\\ude00\\/\", \"a\":\x7b \x7d\x7d ").toList) =
    some (.object [("a", .array [.number (-150) 0, .bool true]), ("b", .string "é😀/"),
      ("a", .object [])]) := by cbv

end Json
end SocksGateway
