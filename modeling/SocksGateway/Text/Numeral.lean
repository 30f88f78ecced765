/-!
Numerals: natural numbers in a base of at most sixteen, most significant digit first, letters in
lower case. A `Numeral.Rule` says which numerals a reader takes. Main statement: `read_write`, a
written numeral is read back whatever follows it, as long as no digit does.
-/
namespace SocksGateway.Numeral

/-- Letters stand for ten to fifteen in either case. -/
def digitValue (c : Char) : Nat :=
  if '0' ≤ c ∧ c ≤ '9' then c.toNat - 48
  else if 'a' ≤ c ∧ c ≤ 'f' then c.toNat - 87
  else if 'A' ≤ c ∧ c ≤ 'F' then c.toNat - 55
  else 16

def isDigit (base : Nat) (c : Char) : Bool := digitValue c < base

def value (base : Nat) (ds : List Char) : Nat :=
  ds.foldl (fun n c => base * n + digitValue c) 0

def write (base n : Nat) : List Char := Nat.toDigits base n

def pad (width n : Nat) : List Char :=
  List.replicate (width - (write 10 n).length) '0' ++ write 10 n

/-- Which numerals are taken: at most `maxDigits` digits, a value below `limit`, and a zero in front
of other digits only where `leadingZero` allows it. -/
structure Rule where
  base : Nat := 10
  maxDigits : Option Nat := none
  leadingZero : Bool := true
  limit : Nat

def Rule.admits (r : Rule) (ds : List Char) : Bool :=
  !ds.isEmpty && (r.maxDigits.all (ds.length ≤ ·)) &&
    (r.leadingZero || ds.length ≤ 1 || ds.head? != some '0') && value r.base ds < r.limit

/-- The longest run of digits has to satisfy the rule; no shorter run is tried. -/
def read (r : Rule) (cs : List Char) : Option (Nat × List Char) :=
  let ds := cs.takeWhile (isDigit r.base)
  if r.admits ds then some (value r.base ds, cs.dropWhile (isDigit r.base)) else none

theorem value_append (base : Nat) (as : List Char) (c : Char) :
    value base (as ++ [c]) = base * value base as + digitValue c := by
  simp [value]

theorem digitValue_digitChar : ∀ d, d < 16 → digitValue (Nat.digitChar d) = d := by decide

theorem write_of_lt {base n : Nat} (h : n < base) : write base n = [Nat.digitChar n] :=
  Nat.toDigits_of_lt_base h

theorem write_step {base n : Nat} (hb : 1 < base) (h : base ≤ n) :
    write base n = write base (n / base) ++ [Nat.digitChar (n % base)] := by
  have hm : n % base < base := Nat.mod_lt _ (by omega)
  have := Nat.toDigits_append_toDigits (b := base) (n := n / base) (d := n % base) hb
    (Nat.div_pos h (by omega)) hm
  rw [Nat.div_add_mod, Nat.toDigits_of_lt_base hm] at this
  exact this.symm

theorem value_write {base : Nat} (hb : 1 < base) (hs : base ≤ 16) (n : Nat) :
    value base (write base n) = n := by
  induction n using Nat.strongRecOn with
  | _ n ih =>
    by_cases h : n < base
    · rw [write_of_lt h]
      simp [value, digitValue_digitChar n (by omega)]
    · have hm : n % base < base := Nat.mod_lt _ (by omega)
      rw [write_step hb (by omega), value_append, ih _ (Nat.div_lt_self (by omega) hb),
        digitValue_digitChar _ (by omega), Nat.div_add_mod]

theorem isDigit_of_mem_write {base : Nat} (hb : 1 < base) (hs : base ≤ 16) (n : Nat) :
    ∀ c ∈ write base n, isDigit base c = true := by
  induction n using Nat.strongRecOn with
  | _ n ih =>
    by_cases h : n < base
    · simp [write_of_lt h, isDigit, digitValue_digitChar n (by omega), h]
    · have hm : n % base < base := Nat.mod_lt _ (by omega)
      rw [write_step hb (by omega)]
      intro c hc
      rcases List.mem_append.1 hc with hc | hc
      · exact ih _ (Nat.div_lt_self (by omega) hb) c hc
      · rw [List.mem_singleton.1 hc]
        simp [isDigit, digitValue_digitChar _ (show n % base < 16 by omega), hm]

theorem write_ne_nil {base : Nat} (hb : 1 < base) (n : Nat) : write base n ≠ [] := by
  by_cases h : n < base
  · simp [write_of_lt h]
  · simp [write_step hb (show base ≤ n by omega)]

def Stops (base : Nat) (rest : List Char) : Prop := ∀ c ∈ rest.head?, isDigit base c = false

theorem span_append {base : Nat} {ds rest : List Char} (hd : ∀ c ∈ ds, isDigit base c = true)
    (hr : Stops base rest) :
    (ds ++ rest).takeWhile (isDigit base) = ds ∧
      (ds ++ rest).dropWhile (isDigit base) = rest := by
  induction ds with
  | nil =>
    cases rest with
    | nil => simp
    | cons c cs => simp [hr c (by simp)]
  | cons c cs ih =>
    have := ih (fun x hx => hd x (by simp [hx]))
    simp [hd c (by simp), this]

theorem read_write {r : Rule} (hb : 1 < r.base) (hs : r.base ≤ 16) {n : Nat} {rest : List Char}
    (ha : r.admits (write r.base n) = true) (hr : Stops r.base rest) :
    read r (write r.base n ++ rest) = some (n, rest) := by
  have h := span_append (isDigit_of_mem_write hb hs n) hr
  simp [read, h.1, h.2, ha, value_write hb hs n]

end SocksGateway.Numeral
