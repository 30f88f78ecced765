import SocksGateway.Net.AddressText
import SocksGateway.Proofs.Text.Numerals

/-!
Addresses are read back from their texts, by strict and by lenient readers alike. A text of eight
groups leaves out the first longest run of zero groups, and the reader fills in as many as are
missing; a mapped address ends in four octets, which stand for two groups.
-/
namespace SocksGateway

namespace Address
open Numeral

theorem read_octet (s : Style) {n : Nat} (hn : n < 256) {rest : List Char} (hr : Stops 10 rest) :
    Numeral.read s.octet (Numeral.write 10 n ++ rest) = some (n, rest) := by
  refine read_written (r := s.octet) (show 1 < 10 by decide) (show 10 ≤ 16 by decide) hn ?_ hr
  intro d hd
  obtain rfl : 3 = d := Option.some.inj hd
  exact ⟨by decide, Nat.lt_trans hn (show 256 < 10 ^ 3 by decide)⟩

theorem read_group {n : Nat} (hn : n < 65536) {rest : List Char} (hr : Stops 16 rest) :
    Numeral.read group (Numeral.write 16 n ++ rest) = some (n, rest) := by
  refine read_written (r := group) (by decide) (by decide) hn ?_ hr
  intro d hd
  obtain rfl : 4 = d := Option.some.inj hd
  exact ⟨by decide, hn⟩

theorem readV4_write (s : Style) (a : BitVec 32) {rest : List Char} (hr : Stops 10 rest) :
    readV4 s (v4Chars a ++ rest) = some (a, rest) := by
  have ha := a.isLt
  have hdot (cs : List Char) : Stops 10 ('.' :: cs) := stops_cons (by decide)
  have h1 : a.toNat / 16777216 < 256 := by omega
  have h2 : a.toNat / 65536 % 256 < 256 := by omega
  have h3 : a.toNat / 256 % 256 < 256 := by omega
  have h4 : a.toNat % 256 < 256 := by omega
  have hb := ofOctets_octets a
  rw [octets] at hb
  simp [readV4, v4Chars, octets, joinWith, read_octet s, hdot, h1, h2, h3, h4, hr, hb]

/-- What may stand behind a group: neither a digit of its own nor a point, which would make it an
octet. -/
structure Ends (rest : List Char) : Prop where
  stops : Stops 16 rest
  noPoint : rest.head? ≠ some '.'

theorem ends_cons {c : Char} (hd : isDigit 16 c = false) (hp : c ≠ '.') (cs : List Char) :
    Ends (c :: cs) :=
  ⟨stops_cons hd, fun h => hp (Option.some.inj h)⟩

theorem readV4_of_stops (s : Style) {rest : List Char} (h : Stops 10 rest) :
    readV4 s rest = none := by
  rw [readV4, read_of_stops (r := s.octet) h]
  rfl

theorem readV4_of_no_point (s : Style) {cs : List Char}
    (h : (cs.dropWhile (isDigit 10)).head? ≠ some '.') :
    readV4 s cs = none := by
  have hskip := Reader.skip_of_head? h
  rw [readV4, Numeral.read]
  dsimp only
  split
  next =>
    show ((Reader.skip '.' (cs.dropWhile (isDigit 10))).bind _) = none
    rw [hskip]
    rfl
  next => rfl

theorem head?_behind_digits {ds rest : List Char} (hd : ∀ c ∈ ds, isDigit 16 c = true)
    (hr : Ends rest) :
    ((ds ++ rest).dropWhile (isDigit 10)).head? ≠ some '.' := by
  induction ds with
  | nil =>
    have hstops : Stops 10 rest := hr.stops.mono (by decide)
    rw [List.nil_append, (span_of_stops hstops).2]
    exact hr.noPoint
  | cons c ds ih =>
    rw [List.cons_append, List.dropWhile_cons]
    split
    · exact ih fun x hx => hd x (List.mem_cons_of_mem c hx)
    · intro hc
      obtain rfl : c = '.' := Option.some.inj hc
      exact absurd (hd '.' List.mem_cons_self) (by decide)

section
variable (s : Style)

theorem readGroups_of_stops (room : Nat) {rest : List Char} (h : Stops 16 rest) :
    readGroups s room true rest = ([], false, rest) := by
  cases room with
  | zero => rfl
  | succ room =>
    simp [readGroups, readV4_of_stops s (h.mono (by decide)), read_of_stops (r := group) h]

theorem readGroups_of_no_colon (room : Nat) {rest : List Char} (h : rest.head? ≠ some ':') :
    readGroups s room false rest = ([], false, rest) := by
  have hskip := Reader.skip_of_head? h
  cases room with
  | zero => rfl
  | succ room => simp [readGroups, hskip]

theorem readGroups_of_gap (room : Nat) (cs : List Char) :
    readGroups s room false (':' :: ':' :: cs) = ([], false, ':' :: ':' :: cs) := by
  have h16 : Stops 16 (':' :: cs) := stops_cons (by decide)
  have h10 : Stops 10 (':' :: cs) := stops_cons (by decide)
  cases room with
  | zero => rfl
  | succ room => simp [readGroups, readV4_of_stops s h10, read_of_stops (r := group) h16]

theorem readGroups_write (room : Nat) (first : Bool) {g : Nat} (hg : g < 65536) {rest : List Char}
    (hr : Ends rest) :
    readGroups s (room + 1) first ((if first then [] else [':']) ++ (Numeral.write 16 g ++ rest)) =
      (g :: (readGroups s room false rest).1, (readGroups s room false rest).2) := by
  have hgroup := read_group hg hr.stops
  have hdigits : ∀ c ∈ Numeral.write 16 g, isDigit 16 c = true :=
    isDigit_of_mem_write (by decide) (by decide) g
  have hv4 := readV4_of_no_point s (head?_behind_digits hdigits hr)
  cases first <;> simp [readGroups, hv4, hgroup]

theorem readGroups_octets (room : Nat) (a : BitVec 32) {rest : List Char} (hr : Stops 10 rest) :
    readGroups s (room + 2) false (':' :: (v4Chars a ++ rest)) = (pair a, true, rest) := by
  simp [readGroups, readV4_write s a hr]

end

def moreChars (gs : List Nat) : List Char := gs.flatMap fun g => ':' :: Numeral.write 16 g

theorem joinWith_cons (sep : Char) (w : List Char) (ws : List (List Char)) :
    joinWith sep (w :: ws) = w ++ ws.flatMap (sep :: ·) := by
  induction ws generalizing w with
  | nil => simp [joinWith]
  | cons x ws ih => rw [joinWith, ih, List.flatMap_cons, List.cons_append]; exact nofun

theorem groupChars_cons (g : Nat) (gs : List Nat) :
    groupChars (g :: gs) = Numeral.write 16 g ++ moreChars gs := by
  rw [groupChars, List.map_cons, joinWith_cons, List.flatMap_map, moreChars]

theorem ends_moreChars (gs : List Nat) {rest : List Char} (hr : Ends rest) :
    Ends (moreChars gs ++ rest) := by
  cases gs with
  | nil => exact hr
  | cons g gs => exact ends_cons (by decide) (by decide) _

section
variable (s : Style) {gs : List Nat} (hg : ∀ g ∈ gs, g < 65536) {room : Nat}
  (hroom : gs.length ≤ room)
  {rest : List Char} (hr : Ends rest) (hlast : ∀ room,
    readGroups s room false rest = ([], false, rest))
include hg hroom hr hlast

theorem readGroups_more : readGroups s room false (moreChars gs ++ rest) = (gs, false, rest) := by
  induction gs generalizing room with
  | nil => exact hlast room
  | cons g gs ih =>
    obtain ⟨hg, hgs⟩ := List.forall_mem_cons.1 hg
    cases room with
    | zero => exact absurd hroom (Nat.not_succ_le_zero _)
    | succ room =>
      have hmore := ih hgs (Nat.le_of_succ_le_succ hroom)
      have hw := readGroups_write s room false hg (ends_moreChars gs hr)
      rw [hmore] at hw
      simpa [moreChars] using hw

theorem readGroups_groupChars :
    readGroups s room true (groupChars gs ++ rest) = (gs, false, rest) := by
  cases gs with
  | nil => exact readGroups_of_stops s room hr.stops
  | cons g gs =>
    obtain ⟨hg, hgs⟩ := List.forall_mem_cons.1 hg
    cases room with
    | zero => exact absurd hroom (Nat.not_succ_le_zero _)
    | succ room =>
      have hmore := readGroups_more s hgs (Nat.le_of_succ_le_succ hroom) hr hlast
      have hw := readGroups_write s room true hg (ends_moreChars gs hr)
      rw [hmore] at hw
      rw [groupChars_cons, List.append_assoc]
      exact hw

end

theorem eq_of_leadingZeros (gs : List Nat) :
    gs = List.replicate (leadingZeros gs) 0 ++ gs.drop (leadingZeros gs) := by
  induction gs with
  | nil => rfl
  | cons g gs ih =>
    by_cases h : g = 0
    · subst h
      have hz : leadingZeros (0 :: gs) = leadingZeros gs + 1 := by simp [leadingZeros]
      rw [hz, List.replicate_succ, List.drop_succ_cons, List.cons_append, ← ih]
    · have hz : leadingZeros (g :: gs) = 0 := by simp [leadingZeros, h]
      rw [hz]
      rfl

theorem eq_of_aroundZeros? {gs before after : List Nat}
    (h : aroundZeros? gs = some (before, after)) :
    ∃ n, 2 ≤ n ∧ gs = before ++ List.replicate n 0 ++ after := by
  unfold aroundZeros? at h
  dsimp only at h
  split at h
  next hn =>
    obtain ⟨i, hi, hsplit⟩ := Option.map_eq_some_iff.1 h
    obtain ⟨rfl, rfl⟩ := Prod.mk.inj hsplit
    have hzeros : leadingZeros (gs.drop i) = zeroRun gs := by simpa using List.find?_some hi
    have hdrop := eq_of_leadingZeros (gs.drop i)
    rw [hzeros, List.drop_drop] at hdrop
    refine ⟨zeroRun gs, hn, ?_⟩
    rw [List.append_assoc, ← hdrop, List.take_append_drop]
  next => cases h

theorem groups_lt (a : BitVec 128) : ∀ g ∈ groups a, g < 65536 := by
  intro g hg
  simp only [groups, lastGroups, List.nil_append, List.cons_append, List.mem_cons,
    List.not_mem_nil, or_false] at hg
  omega

theorem ofGroups_mapped (a : BitVec 32) :
    ofGroups ([] ++ List.replicate 5 0 ++ 0xffff :: pair a) = mapped a := by
  apply BitVec.eq_of_toNat_eq
  have := a.isLt
  rw [toNat_mapped]
  simp only [ofGroups, pair, List.replicate, List.nil_append, List.cons_append,
    List.foldl_cons, List.foldl_nil, BitVec.toNat_ofNat]
  omega

section
variable (s : Style)

/-- Four octets in front would be too few groups. -/
theorem readV4_of_readV6 {s : Style} {cs rest : List Char} {a : BitVec 128}
    (h : readV6 s cs = some (a, rest)) :
    readV4 s cs = none := by
  cases hv4 : readV4 s cs with
  | none => rfl
  | some p =>
    have hnone : readV6 s cs = none := by simp [readV6, readGroups, hv4, pair]
    rw [hnone] at h
    cases h

theorem readV6_of_gap {before after : List Nat} (hb : ∀ g ∈ before, g < 65536)
    (hlt : before.length < 8) {cs rest : List Char} {dotted : Bool}
    (ha : readGroups s (8 - before.length - s.leastGap) true cs = (after, dotted, rest)) :
    readV6 s (groupChars before ++ ':' :: ':' :: cs) =
      some (ofGroups (before ++ List.replicate (8 - before.length - after.length) 0 ++ after),
        rest) := by
  have hends : Ends (':' :: ':' :: cs) := ends_cons (by decide) (by decide) _
  have hbefore := readGroups_groupChars s hb (Nat.le_of_lt hlt) hends fun room =>
      readGroups_of_gap s room cs
  have hskip : Reader.skipAll [':', ':'] (':' :: ':' :: cs) = some cs :=
    Reader.skipAll_append [':', ':'] cs
  simp [readV6, hbefore, Nat.ne_of_lt hlt, hskip, ha]

theorem readV6_write (hs : s.leastGap ≤ 2) (a : BitVec 128) {rest : List Char} (hr : Ends rest)
    (hcolon : rest.head? ≠ some ':') : readV6 s (v6Chars a ++ rest) = some (a, rest) := by
  have hlast (room : Nat) : readGroups s room false rest = ([], false, rest) :=
    readGroups_of_no_colon s room hcolon
  unfold v6Chars
  split
  next b hb =>
    obtain rfl := eq_mapped_of_unmapped? hb
    have hroom : 8 - s.leastGap = 5 - s.leastGap + 2 + 1 := by omega
    have hoctets := readGroups_octets s (5 - s.leastGap) b (hr.stops.mono (by decide))
    have hpair := readGroups_write s (5 - s.leastGap + 2) true (g := 0xffff) (by decide)
      (ends_cons (c := ':') (by decide) (by decide) (v4Chars b ++ rest))
    rw [hoctets, ← hroom] at hpair
    have hnone : ∀ g ∈ ([] : List Nat), g < 65536 := nofun
    have hread := readV6_of_gap s hnone (by decide) hpair
    rw [show 8 - ([] : List Nat).length - (0xffff :: pair b).length = 5 from rfl,
      ofGroups_mapped] at hread
    exact hread
  next =>
    split
    next before after hz =>
      obtain ⟨n, hn, hgroups⟩ := eq_of_aroundZeros? hz
      have hlength := congrArg List.length hgroups
      simp only [length_groups, List.length_append, List.length_replicate] at hlength
      have hlt := groups_lt a
      rw [hgroups] at hlt
      have hbefore : ∀ g ∈ before, g < 65536 := fun g hg =>
        hlt g (List.mem_append_left _ (List.mem_append_left _ hg))
      have hafter : ∀ g ∈ after, g < 65536 := fun g hg => hlt g (List.mem_append_right _ hg)
      have hroom : after.length ≤ 8 - before.length - s.leastGap := by omega
      have hread :=
        readV6_of_gap s hbefore (by omega) (readGroups_groupChars s hafter hroom hr hlast)
      have hgap : 8 - before.length - after.length = n := by omega
      rw [hgap, ← hgroups, ofGroups_groups] at hread
      simpa using hread
    next =>
      have hall := readGroups_groupChars s (groups_lt a) (Nat.le_of_eq (length_groups a)) hr hlast
      simp [readV6, hall, length_groups, ofGroups_groups]

end

theorem visible_joinWith {sep : Char} (hs : Blank.isBlank sep = false) {ws : List (List Char)}
    (hw : ∀ w ∈ ws, Blank.Visible w) : Blank.Visible (joinWith sep ws) := by
  cases ws with
  | nil => exact .nil
  | cons w ws =>
    obtain ⟨hw, hws⟩ := List.forall_mem_cons.1 hw
    rw [joinWith_cons]
    refine hw.append fun c hc => ?_
    obtain ⟨x, hx, hc⟩ := List.mem_flatMap.1 hc
    exact (hws x hx).cons hs c hc

theorem visible_v4Chars (a : BitVec 32) : Blank.Visible (v4Chars a) := by
  refine visible_joinWith (by decide) fun w hw => ?_
  obtain ⟨n, -, rfl⟩ := List.mem_map.1 hw
  exact .write (by decide) (by decide) n

theorem visible_groupChars (gs : List Nat) : Blank.Visible (groupChars gs) := by
  refine visible_joinWith (by decide) fun w hw => ?_
  obtain ⟨n, -, rfl⟩ := List.mem_map.1 hw
  exact .write (by decide) (by decide) n

theorem visible_v6Chars (a : BitVec 128) : Blank.Visible (v6Chars a) := by
  have hcolons {cs : List Char} (h : Blank.Visible cs) : Blank.Visible (':' :: ':' :: cs) :=
    .cons (by decide) (.cons (by decide) h)
  unfold v6Chars
  split
  next =>
    have hgroup : Blank.Visible (Numeral.write 16 0xffff) := .write (by decide) (by decide) _
    exact hcolons (hgroup.append (.cons (by decide) (visible_v4Chars _)))
  next =>
    split
    next before after _ =>
      exact ((visible_groupChars before).append (hcolons .nil)).append (visible_groupChars after)
    next => exact visible_groupChars _

end Address
end SocksGateway
