import SocksGateway.Policy.ProcessName

/-!
Texts that differ in the case of the letters A to Z. Those letters have a case, in capitals and in
small letters alike, and none of them is white space or skipped when the end of a word is looked
for. So each sigma keeps its surroundings, and such texts have the same lower-case form and name the
same process.
-/
namespace SocksGateway

namespace LowerCase

theorem asciiChar_of_not_ascii {c : Char} (h : ¬ c.toNat < 128) : asciiChar c = c := by
  have hupper : isUpperAscii c = false := by
    rw [isUpperAscii, Bool.and_eq_false_iff]
    refine .inr (decide_eq_false fun hle => h ?_)
    exact Nat.lt_of_le_of_lt (show c.toNat ≤ 'Z'.toNat from hle) (by decide)
  rw [asciiChar, hupper]
  rfl

theorem eq_of_asciiChar {α : Type} {f : Char → α}
    (h : ∀ n, n < 128 → f (asciiChar (Char.ofNat n)) = f (Char.ofNat n)) (c : Char) :
    f (asciiChar c) = f c := by
  by_cases hc : c.toNat < 128
  · have hn := h c.toNat hc
    rwa [Char.ofNat_toNat] at hn
  · rw [asciiChar_of_not_ascii hc]

theorem isCased_asciiChar (c : Char) : isCased (asciiChar c) = isCased c :=
  eq_of_asciiChar (by decide +kernel) c

theorem isIgnorable_asciiChar (c : Char) : isIgnorable (asciiChar c) = isIgnorable c :=
  eq_of_asciiChar (by decide +kernel) c

theorem isBlank_asciiChar (c : Char) : Blank.isBlank (asciiChar c) = Blank.isBlank c :=
  eq_of_asciiChar (by decide +kernel) c

theorem char_asciiChar (c : Char) : char (asciiChar c) = char c :=
  eq_of_asciiChar (by decide +kernel) c

theorem asciiChar_eq_sigma_iff (c : Char) : asciiChar c = 'Σ' ↔ c = 'Σ' := by
  have hsigma : (asciiChar c == 'Σ') = (c == 'Σ') :=
    eq_of_asciiChar (f := (· == 'Σ')) (by decide +kernel) c
  rw [← beq_iff_eq, hsigma, beq_iff_eq]

theorem meetsCased_ascii (cs : List Char) : meetsCased (ascii cs) = meetsCased cs := by
  induction cs with
  | nil => rfl
  | cons c cs ih =>
    simp only [meetsCased, ascii, List.map_cons, List.dropWhile_cons,
      isIgnorable_asciiChar] at ih ⊢
    cases isIgnorable c with
    | true => exact ih
    | false => exact isCased_asciiChar c

theorem lowerAfter_ascii (before cs : List Char) :
    lowerAfter (ascii before) (ascii cs) = lowerAfter before cs := by
  induction cs generalizing before with
  | nil => rfl
  | cons c cs ih =>
    have hmore : lowerAfter (asciiChar c :: ascii before) (ascii cs) =
        lowerAfter (c :: before) cs := ih (c :: before)
    have hsigma : sigma (ascii before) (ascii cs) = sigma before cs := by
      rw [sigma, sigma, meetsCased_ascii, meetsCased_ascii]
    show lowerAfter (ascii before) (asciiChar c :: ascii cs) = lowerAfter before (c :: cs)
    rw [lowerAfter, lowerAfter, hmore, hsigma, char_asciiChar]
    simp only [asciiChar_eq_sigma_iff]

theorem lower_ascii (cs : List Char) : lower (ascii cs) = lower cs := lowerAfter_ascii [] cs

theorem trimStart_ascii (cs : List Char) :
    Blank.trimStart (ascii cs) = ascii (Blank.trimStart cs) := by
  have hblank : Blank.isBlank ∘ asciiChar = Blank.isBlank := funext isBlank_asciiChar
  rw [Blank.trimStart, ascii, List.dropWhile_map, hblank]
  rfl

theorem trim_ascii (cs : List Char) : Blank.trim (ascii cs) = ascii (Blank.trim cs) := by
  have hreverse (xs : List Char) : (ascii xs).reverse = ascii xs.reverse := List.map_reverse.symm
  rw [Blank.trim, Blank.trim, trimStart_ascii, Blank.trimEnd, hreverse, trimStart_ascii, hreverse]
  rfl

end LowerCase

namespace ProcessName

/-- The names are the same but for the case of letters A to Z. -/
def SameLetters (p q : String) : Prop := LowerCase.ascii p.toList = LowerCase.ascii q.toList

instance (p q : String) : Decidable (SameLetters p q) :=
  inferInstanceAs (Decidable (LowerCase.ascii p.toList = LowerCase.ascii q.toList))

theorem key_of_sameLetters {p q : String} (h : SameLetters p q) : key p = key q := by
  have hkey (name : String) : key name =
      String.ofList (LowerCase.lower (Blank.trim (LowerCase.ascii name.toList))) := by
    rw [LowerCase.trim_ascii, LowerCase.lower_ascii, key]
  rw [hkey p, hkey q, h]

end ProcessName
end SocksGateway
