import SocksGateway.Proofs.Log.Threads

namespace SocksGateway

namespace DrainLoop

namespace Place

def isDelivering : Place → Bool
  | holding _ _ => true
  | handed _ => true
  | stuck => true
  | _ => false

def hasBegunLast : Place → Bool
  | holding last _ => last
  | handed last => last
  | delivered last => last
  | leaving => true
  | finished => true
  | _ => false

end Place

def Turn.isWorker : Turn → Bool
  | worker => true
  | _ => false

/-- A delivery is asked for and did not begin: the worker is about to begin one, or it will find the
request before it sleeps. -/
def Due (d : DrainLoop) : Prop :=
  (∃ last, d.place = .awake last) ∨ d.flush = true ∧ d.place.isLast = false

/-- A sleeping worker that is asked for something is about to be called. -/
def Watched (d : DrainLoop) : Prop :=
  d.place = .asleep → (d.flush || d.shutdown) = true → 0 < d.calls

section
variable {d : DrainLoop} {t : Turn}

theorem place_rouse (d : DrainLoop) :
    d.rouse.place = d.place ∨ d.place = .asleep ∧ d.rouse.place = .roused := by
  unfold rouse
  split
  next h => exact .inr ⟨h, rfl⟩
  next => exact .inl rfl

theorem rouse_ne_asleep (d : DrainLoop) : d.rouse.place ≠ .asleep := by
  unfold rouse
  split
  · exact Place.noConfusion
  next h => exact h

theorem flags_rouse (d : DrainLoop) :
    d.rouse.flush = d.flush ∧ d.rouse.shutdown = d.shutdown := by
  unfold rouse
  split <;> exact ⟨rfl, rfl⟩

/-- Whoever else takes a turn leaves the worker where it is, but for waking it up, and takes no
request back. -/
theorem next_of_other (d : DrainLoop) (h : t.isWorker = false) :
    d.mark? t = none ∧
      ((d.next t).place = d.place ∨ d.place = .asleep ∧ (d.next t).place = .roused) ∧
      (d.flush = true → (d.next t).flush = true) ∧
        (d.shutdown = true → (d.next t).shutdown = true) := by
  obtain ⟨hf, hs⟩ := d.flags_rouse
  cases t with
  | worker => cases h
  | timeout => exact ⟨rfl, d.place_rouse, fun h => hf.trans h, fun h => hs.trans h⟩
  | call =>
    simp only [next]
    split
    · exact ⟨rfl, .inl rfl, id, id⟩
    · exact ⟨rfl, d.place_rouse, fun h => hf.trans h, fun h => hs.trans h⟩
  | requestFlush => exact ⟨rfl, .inl rfl, fun _ => rfl, id⟩
  | requestShutdown => exact ⟨rfl, .inl rfl, id, fun _ => rfl⟩
  | others s => exact ⟨rfl, .inl rfl, id, id⟩

theorem isLast_of_rouse {p q : Place} (h : q = p ∨ p = .asleep ∧ q = .roused) :
    q.isLast = p.isLast := by
  obtain rfl | ⟨rfl, rfl⟩ := h <;> rfl

theorem next_of_delivering (h : d.place.isDelivering = true) (t : Turn) :
    d.mark? t = some .completes ∨ d.mark? t = none ∧ (d.next t).place.isDelivering = true := by
  cases ht : t.isWorker with
  | false =>
    obtain ⟨hm, hp | ⟨hp, -⟩, -⟩ := d.next_of_other ht
    · exact .inr ⟨hm, hp ▸ h⟩
    · rw [hp] at h; cases h
  | true =>
    cases t with
    | worker =>
      obtain ⟨f, s, c, place, log⟩ := d
      cases place with
      | holding last batch =>
        right
        refine ⟨rfl, ?_⟩
        simp only [next, work]
        split <;> rfl
      | handed last => exact .inl rfl
      | stuck => exact .inr ⟨rfl, rfl⟩
      | _ => cases h
    | _ => cases ht

theorem next_of_due (h : Due d) (t : Turn) :
    d.mark? t = some .begins ∧ (d.next t).place.isDelivering = true ∨
      (d.mark? t = none ∨ d.mark? t = some .completes) ∧ Due (d.next t) := by
  cases ht : t.isWorker with
  | false =>
    obtain ⟨hm, hp, hf, -⟩ := d.next_of_other ht
    refine .inr ⟨.inl hm, ?_⟩
    rcases h with ⟨last, h⟩ | ⟨hflush, hlast⟩
    · rw [h] at hp
      exact .inl ⟨last, hp.resolve_right fun h => by cases h.1⟩
    · exact .inr ⟨hf hflush, (isLast_of_rouse hp).trans hlast⟩
  | true =>
    cases t with
    | worker =>
      obtain ⟨f, s, c, place, log⟩ := d
      rcases h with ⟨last, rfl⟩ | ⟨rfl, hlast⟩
      · exact .inl ⟨rfl, rfl⟩
      · cases place with
        | top => exact .inr ⟨.inl rfl, .inl ⟨s, rfl⟩⟩
        | asleep => exact .inr ⟨.inl rfl, .inr ⟨rfl, rfl⟩⟩
        | roused => exact .inr ⟨.inl rfl, .inl ⟨s, rfl⟩⟩
        | awake last => exact .inl ⟨rfl, rfl⟩
        | holding last batch =>
          refine .inr ⟨.inl rfl, .inr ⟨rfl, ?_⟩⟩
          simp only [next, work]
          split
          · rfl
          · exact hlast
        | handed last => exact .inr ⟨.inr rfl, .inr ⟨rfl, hlast⟩⟩
        | delivered last =>
          cases last
          · exact .inr ⟨.inl rfl, .inr ⟨rfl, rfl⟩⟩
          · cases hlast
        | stuck => exact .inr ⟨.inl rfl, .inr ⟨rfl, rfl⟩⟩
        | leaving => cases hlast
        | finished => cases hlast
    | _ => cases ht

theorem marks_cons_eq {turns : List Turn} {before after : List Mark} {m : Mark}
    (h : d.marks (t :: turns) = before ++ m :: after) :
    d.mark? t = none ∧ (d.next t).marks turns = before ++ m :: after ∨
      d.mark? t = some m ∧ before = [] ∨
      ∃ m' rest, d.mark? t = some m' ∧ before = m' :: rest ∧
        (d.next t).marks turns = rest ++ m :: after := by
  rw [marks_cons] at h
  cases hm : d.mark? t with
  | none => rw [hm] at h; exact .inl ⟨rfl, h⟩
  | some m' =>
    rw [hm] at h
    cases before with
    | nil => injection h with h; exact .inr (.inl ⟨congrArg some h, rfl⟩)
    | cons m'' rest =>
      injection h with h₁ h₂
      exact .inr (.inr ⟨m', rest, rfl, congrArg (· :: rest) h₁.symm, h₂⟩)

theorem completes_before_pause {turns : List Turn} {before after : List Mark} {m : Mark}
    (h : d.place.isDelivering = true) (hm : d.marks turns = before ++ m :: after)
    (hp : m.isPause = true) :
    .completes ∈ before := by
  induction turns generalizing d with
  | nil => cases before <;> cases hm
  | cons t turns ih =>
    rcases marks_cons_eq hm with ⟨hn, hm⟩ | ⟨hs, -⟩ | ⟨m', rest, hs, rfl, -⟩
    · rcases next_of_delivering h t with hc | ⟨-, hd⟩
      · rw [hn] at hc; cases hc
      · exact ih hd hm
    · rcases next_of_delivering h t with hc | ⟨hn, -⟩
      · rw [hc] at hs; cases hs; cases hp
      · rw [hn] at hs; cases hs
    · rcases next_of_delivering h t with hc | ⟨hn, -⟩
      · rw [hc] at hs; cases hs; exact List.mem_cons_self
      · rw [hn] at hs; cases hs

theorem delivery_before_pause {turns : List Turn} {before after : List Mark} {m : Mark}
    (h : Due d) (hm : d.marks turns = before ++ m :: after) (hp : m.isPause = true) :
    [.begins, .completes].Sublist before := by
  induction turns generalizing d before with
  | nil => cases before <;> cases hm
  | cons t turns ih =>
    rcases marks_cons_eq hm with ⟨hn, hm⟩ | ⟨hs, -⟩ | ⟨m', rest, hs, rfl, hr⟩
    · rcases next_of_due h t with ⟨hb, -⟩ | ⟨-, hd⟩
      · rw [hn] at hb; cases hb
      · exact ih hd hm
    · rcases next_of_due h t with ⟨hb, -⟩ | ⟨hn | hc, -⟩
      · rw [hb] at hs; cases hs; cases hp
      · rw [hn] at hs; cases hs
      · rw [hc] at hs; cases hs; cases hp
    · rcases next_of_due h t with ⟨hb, hd⟩ | ⟨-, hd⟩
      · rw [hb] at hs
        cases hs
        exact (List.singleton_sublist.2 (completes_before_pause hd hr hp)).cons_cons _
      · exact (ih hd hr).cons _

theorem watched_next (h : Watched d) (t : Turn) : Watched (d.next t) := by
  intro hp hf
  cases t with
  | worker =>
    obtain ⟨f, s, c, place, log⟩ := d
    cases place with
    | top =>
      simp only [next, work] at hp hf
      split at hp
      · cases hp
      next hn =>
        rw [if_neg hn] at hf
        exact absurd hf hn
    | asleep => exact h rfl hf
    | holding last batch =>
      simp only [next, work] at hp
      split at hp <;> cases hp
    | delivered last => cases last <;> cases hp
    | _ => cases hp
  | timeout => exact absurd hp d.rouse_ne_asleep
  | requestFlush => exact Nat.succ_pos _
  | requestShutdown => exact Nat.succ_pos _
  | call =>
    by_cases hc : d.calls = 0
    · rw [next, if_pos hc] at hp hf ⊢
      exact h hp hf
    · rw [next, if_neg hc] at hp
      exact absurd hp d.rouse_ne_asleep
  | others s => exact h hp hf

theorem watched_after (h : Watched d) (turns : List Turn) : Watched (d.after turns) := by
  induction turns generalizing d with
  | nil => exact h
  | cons t turns ih => exact ih (watched_next h t)

def Unasked (d : DrainLoop) : Prop := d.shutdown = false ∧ d.place.isLast = false

theorem unasked_next (h : Unasked d) (ht : t ≠ .requestShutdown) : Unasked (d.next t) := by
  obtain ⟨f, s, c, place, log⟩ := d
  obtain ⟨rfl, hl⟩ := h
  cases t with
  | worker =>
    cases place with
    | top =>
      simp only [next, work]
      split <;> exact ⟨rfl, rfl⟩
    | roused => exact ⟨rfl, rfl⟩
    | holding last batch =>
      simp only [next, work]
      split
      · exact ⟨rfl, rfl⟩
      · exact ⟨rfl, hl⟩
    | delivered last =>
      cases last
      · exact ⟨rfl, rfl⟩
      · cases hl
    | leaving => cases hl
    | _ => exact ⟨rfl, hl⟩
  | timeout =>
    refine ⟨(flags_rouse _).2, (isLast_of_rouse (place_rouse _)).trans hl⟩
  | requestFlush => exact ⟨rfl, hl⟩
  | requestShutdown => exact absurd rfl ht
  | call =>
    simp only [next]
    split
    · exact ⟨rfl, hl⟩
    · exact ⟨(flags_rouse _).2, (isLast_of_rouse (place_rouse _)).trans hl⟩
  | others s => exact ⟨rfl, hl⟩

theorem unasked_after {turns : List Turn} (h : Unasked d) (ht : .requestShutdown ∉ turns) :
    Unasked (d.after turns) := by
  induction turns generalizing d with
  | nil => exact h
  | cons t turns ih =>
    obtain ⟨h₁, h₂⟩ := not_or.1 (ht ∘ List.mem_cons.2)
    exact ih (unasked_next h (Ne.symm h₁)) h₂

theorem not_hasBegunLast {p : Place} (h : p.isLast = false) : p.hasBegunLast = false := by
  cases p with
  | awake last => rfl
  | _ => exact h

theorem begunLast_next (h : d.place.hasBegunLast = false)
    (ht : ¬ (t = .worker ∧ d.place = .awake true)) :
    (d.next t).place.hasBegunLast = false := by
  cases hw : t.isWorker with
  | false =>
    obtain ⟨-, hp | ⟨-, hp⟩, -⟩ := d.next_of_other hw
    · exact hp ▸ h
    · rw [hp]; rfl
  | true =>
    cases t with
    | worker =>
      obtain ⟨f, s, c, place, log⟩ := d
      cases place with
      | top =>
        simp only [next, work]
        split <;> rfl
      | awake last =>
        cases last
        · rfl
        · exact absurd ⟨rfl, rfl⟩ ht
      | holding last batch =>
        simp only [next, work]
        split
        · rfl
        · exact h
      | delivered last =>
        cases last
        · rfl
        · cases h
      | _ => exact h
    | _ => cases hw

theorem last_delivery {turns : List Turn} (h : d.place.hasBegunLast = false)
    (h' : (d.after turns).place.hasBegunLast = true) :
    ∃ as bs, turns = as ++ .worker :: bs ∧ (d.after as).place = .awake true := by
  induction turns generalizing d with
  | nil => rw [after, List.foldl_nil, h] at h'; cases h'
  | cons t turns ih =>
    by_cases hb : t = .worker ∧ d.place = .awake true
    · obtain ⟨rfl, hp⟩ := hb
      exact ⟨[], turns, rfl, hp⟩
    · obtain ⟨as, bs, rfl, hp⟩ := ih (begunLast_next h hb) h'
      exact ⟨t :: as, bs, rfl, hp⟩

/-- What was accepted before a delivery begins has left the ring once it has begun. -/
theorem departed_of_awake {turns : List Turn} {last : Bool}
    (h : (d.after turns).place = .awake last) :
    d.log.pending ++ along accepted d turns =
      (along departed d (turns ++ [.worker])).flatMap Departure.entries := by
  have hrun := d.after_conserves (turns ++ [.worker])
  have hempty : (d.after (turns ++ [.worker])).log.pending = [] := by
    rw [after_append]
    show (d.after turns).work.log.pending = []
    rw [work, h]
    rfl
  rw [hempty, List.append_nil, along_append] at hrun
  exact (congrArg _ (List.append_nil _).symm).trans hrun

theorem departed_before_end {before rest : List Turn} (h : Unasked d)
    (hb : .requestShutdown ∉ before)
    (hf : (d.after (before ++ .requestShutdown :: rest)).place = .finished) :
    d.log.pending ++ along accepted d before <+:
      (along departed d (before ++ .requestShutdown :: rest)).flatMap Departure.entries := by
  have hstart : ((d.after before).next .requestShutdown).place.hasBegunLast = false :=
    not_hasBegunLast (unasked_after h hb).2
  rw [after_append] at hf
  have hend : (((d.after before).next .requestShutdown).after rest).place.hasBegunLast = true :=
    (congrArg Place.hasBegunLast hf).trans rfl
  obtain ⟨as, bs, rfl, hp⟩ := last_delivery hstart hend
  have hawake : (d.after (before ++ .requestShutdown :: as)).place = .awake true := by
    rw [after_append]
    exact hp
  have hd := departed_of_awake hawake
  have hsplit : before ++ .requestShutdown :: (as ++ .worker :: bs) =
      (before ++ .requestShutdown :: as ++ [.worker]) ++ bs := by simp
  rw [hsplit, along_append, List.flatMap_append, ← hd, along_append,
    ← List.append_assoc, List.append_assoc]
  exact List.prefix_append _ _

theorem marks_of_finished {turns : List Turn} (h : d.place = .finished) :
    d.marks turns = [] ∧ along begun d turns = [] ∧ (d.after turns).place = .finished := by
  induction turns generalizing d with
  | nil => exact ⟨rfl, rfl, h⟩
  | cons t turns ih =>
    have hn : (d.next t).place = .finished ∧ d.mark? t = none ∧ d.begun t = [] := by
      obtain ⟨f, s, c, place, log⟩ := d
      obtain rfl : place = .finished := h
      cases t with
      | call =>
        simp only [next]
        split <;> exact ⟨rfl, rfl, rfl⟩
      | _ => exact ⟨rfl, rfl, rfl⟩
    obtain ⟨h₁, h₂, h₃⟩ := ih hn.1
    refine ⟨?_, ?_, h₃⟩
    · rw [marks_cons, hn.2.1, h₁]
      rfl
    · rw [along, hn.2.2, h₂]
      rfl

end
end DrainLoop
end SocksGateway
