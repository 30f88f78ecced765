/-!
Readers: a reader takes a value from the front of a text and leaves the rest, or refuses the text. A
reader that is repeated takes at least one character in every turn, so a text has no more turns than
characters.
-/
namespace SocksGateway

abbrev Reader (α : Type) := List Char → Option (α × List Char)

namespace Reader

def skip (c : Char) : List Char → Option (List Char)
  | d :: cs => if d = c then some cs else none
  | [] => none

def skipAll : List Char → List Char → Option (List Char)
  | [], cs => some cs
  | w :: ws, cs => do skipAll ws (← skip w cs)

def whole {α : Type} (r : Reader α) (cs : List Char) : Option α :=
  match r cs with
  | some (a, []) => some a
  | _ => none

def orElse {α : Type} (r s : Reader α) : Reader α := fun cs => (r cs).or (s cs)

/-- Values one after the other, after those already taken, up to the first refusal or the last
turn. -/
def manyFrom {α : Type} (r : Reader α) :
    (turns : List Char) → List α → List Char → List α × List Char
  | _ :: turns, taken, cs =>
    match r cs with
    | some (a, rest) => manyFrom r turns (a :: taken) rest
    | none => (taken.reverse, cs)
  | [], taken, cs => (taken.reverse, cs)

def many {α : Type} (r : Reader α) (cs : List Char) : List α × List Char := manyFrom r cs [] cs

/-- At least one value, with the separator between each two. A separator that no value follows is
left. -/
def sepBy {α : Type} (r : Reader α) (sep : Char) : Reader (List α) := fun cs => do
  let (a, rest) ← r cs
  let (more, rest) := many (fun cs => do r (← skip sep cs)) rest
  some (a :: more, rest)

def exactly (n : Nat) (p : Char → Bool) : Reader (List Char) := fun cs =>
  let ds := cs.take n
  if ds.length = n ∧ ds.all p then some (ds, cs.drop n) else none

def some1 (p : Char → Bool) : Reader (List Char) := fun cs =>
  let ds := cs.takeWhile p
  if ds.isEmpty then none else some (ds, cs.dropWhile p)

@[simp] theorem skip_cons_self (c : Char) (cs : List Char) : skip c (c :: cs) = some cs := by
  simp [skip]

theorem skip_cons_ne {c d : Char} (h : d ≠ c) (cs : List Char) : skip c (d :: cs) = none := by
  simp [skip, h]

theorem skip_of_head? {c : Char} {cs : List Char} (h : cs.head? ≠ some c) : skip c cs = none := by
  cases cs with
  | nil => rfl
  | cons d cs => exact skip_cons_ne (fun he => h (congrArg some he)) cs

theorem eq_cons_of_skip {c : Char} {cs rest : List Char} (h : skip c cs = some rest) :
    cs = c :: rest := by
  cases cs with
  | nil => cases h
  | cons d cs =>
    rw [skip] at h
    split at h
    next hd => rw [hd, Option.some.inj h]
    next => cases h

@[simp] theorem skipAll_append (ws cs : List Char) : skipAll ws (ws ++ cs) = some cs := by
  induction ws with
  | nil => rfl
  | cons w ws ih => simp [skipAll, ih]

end Reader
end SocksGateway
