import SocksGateway.Proofs.Log.WakeUps

namespace SocksGateway

def Subscriber.NeverBlocks (s : Subscriber) : Prop := ∀ batch, s.reaction batch ≠ .blocks

namespace DrainLoop

namespace Place

def goesOn : Place → Bool
  | asleep => false
  | stuck => false
  | _ => true

/-- The worker's turns until a delivery that it is in the middle of is complete. -/
def toCompletion : Place → Nat
  | holding _ _ => 2
  | handed _ => 1
  | _ => 0

/-- The worker's turns until one more delivery is complete, if it does not sleep in between. -/
def toDelivery : Place → Nat
  | awake _ => 3
  | top => 4
  | roused => 4
  | delivered _ => 5
  | handed _ => 6
  | holding _ _ => 7
  | _ => 0

def toEnd : Place → Nat
  | finished => 0
  | leaving => 1
  | delivered true => 2
  | handed true => 3
  | holding true _ => 4
  | awake true => 5
  | top => 6
  | roused => 6
  | delivered false => 7
  | handed false => 8
  | holding false _ => 9
  | awake false => 10
  | _ => 0

theorem goesOn_of_ne {p : Place} (ha : p ≠ .asleep) (hs : p ≠ .stuck) : p.goesOn = true := by
  cases p with
  | asleep => exact absurd rfl ha
  | stuck => exact absurd rfl hs
  | _ => rfl

theorem toDelivery_le (p : Place) : p.toDelivery ≤ 7 := by
  cases p <;> exact Nat.le_of_ble_eq_true rfl

theorem toEnd_le (p : Place) : p.toEnd ≤ 10 := by
  cases p with
  | awake last => cases last <;> decide
  | holding last batch => cases last <;> exact Nat.le_of_ble_eq_true rfl
  | handed last => cases last <;> decide
  | delivered last => cases last <;> decide
  | _ => decide

theorem toCompletion_pos {p : Place} (h : p.isDelivering = true) (hg : p.goesOn = true) :
    0 < p.toCompletion := by
  cases p with
  | holding last batch => exact Nat.two_pos
  | handed last => exact Nat.one_pos
  | stuck => cases hg
  | _ => cases h

theorem eq_finished {p : Place} (hg : p.goesOn = true) (h : p.toEnd = 0) : p = .finished := by
  cases p with
  | finished => rfl
  | asleep => cases hg
  | stuck => cases hg
  | awake last => cases last <;> cases h
  | holding last batch => cases last <;> cases h
  | handed last => cases last <;> cases h
  | delivered last => cases last <;> cases h
  | _ => cases h

end Place

/-- No subscriber blocks, neither those that there are nor those that come. -/
def Unblocked (d : DrainLoop) (turns : List Turn) : Prop :=
  (∀ s ∈ d.log.subscribers, s.NeverBlocks) ∧ ∀ s, .others (.subscribe s) ∈ turns →
    s.NeverBlocks

section
variable {d : DrainLoop} {t : Turn} {turns : List Turn}

theorem subscribers_work (d : DrainLoop) : d.work.log.subscribers = d.log.subscribers := by
  unfold work
  cases d.place with
  | top => dsimp only; split <;> rfl
  | handed last => exact d.log.onMirror_subscribers _ _
  | _ => rfl

theorem unblocked_next (h : Unblocked d (t :: turns)) : Unblocked (d.next t) turns := by
  refine ⟨fun s hs => ?_, fun s hs => h.2 s (List.mem_cons_of_mem _ hs)⟩
  cases t with
  | worker => exact h.1 s (d.subscribers_work ▸ hs)
  | timeout => exact h.1 s (d.log_rouse ▸ hs)
  | call => exact h.1 s (d.log_call ▸ hs)
  | others step =>
    rcases Pipeline.mem_subscribers_perform hs with hs | rfl
    · exact h.1 s hs
    · exact h.2 s List.mem_cons_self
  | _ => exact h.1 s hs

theorem not_blocked (h : Unblocked d turns) (batch : List Entry) :
    (d.log.handOverOf batch).blocked = false := by
  unfold Pipeline.handOverOf
  split
  · rfl
  · exact (HandOver.deliveries_run fun s hs => h.1 s hs batch).2

theorem place_of_other (h : d.place.goesOn = true) (ht : t.isWorker = false) :
    (d.next t).place = d.place := by
  obtain ⟨-, hp | ⟨hp, -⟩, -⟩ := d.next_of_other ht
  · exact hp
  · rw [hp] at h; cases h

theorem turn_cases (t : Turn) : t = .worker ∨ t.isWorker = false := by
  cases t with
  | worker => exact .inl rfl
  | _ => exact .inr rfl

theorem place_holding {f s : Bool} {c : Nat} {last : Bool} {batch : List Entry} {log : Pipeline}
    (h : Unblocked ⟨f, s, c, .holding last batch, log⟩ turns) :
    (work ⟨f, s, c, .holding last batch, log⟩).place = .handed last := by
  simp only [work]
  rw [not_blocked h, if_neg Bool.false_ne_true]

theorem completes_of_turns (hu : Unblocked d turns) (hd : d.place.isDelivering = true)
    (hg : d.place.goesOn = true) (hn : d.place.toCompletion ≤ turns.countP Turn.isWorker) :
    .completes ∈ d.marks turns := by
  induction turns generalizing d with
  | nil =>
    exact absurd hn (Nat.not_le.2 (Place.toCompletion_pos hd hg))
  | cons t turns ih =>
    have hun := unblocked_next hu
    rw [marks_cons]
    rcases turn_cases t with rfl | ht
    · obtain ⟨f, s, c, place, log⟩ := d
      rw [List.countP_cons_of_pos rfl] at hn
      cases place with
      | holding last batch =>
        have hp := place_holding hu
        exact List.mem_append_right _ (ih hun (by rw [next, hp]; rfl) (by rw [next, hp]; rfl)
          (by rw [next, hp]; exact Nat.le_of_succ_le_succ hn))
      | handed last => exact List.mem_append_left _ List.mem_cons_self
      | stuck => cases hg
      | _ => cases hd
    · have hp := place_of_other hg ht
      rw [List.countP_cons_of_neg (by simp [ht])] at hn
      exact List.mem_append_right _ (ih hun (hp ▸ hd) (hp ▸ hg) (hp ▸ hn))

theorem toDelivery_pos (h : Due d) (hg : d.place.goesOn = true) : 0 < d.place.toDelivery := by
  obtain ⟨f, s, c, place, log⟩ := d
  rcases h with ⟨last, rfl⟩ | ⟨-, hl⟩
  · exact Nat.succ_pos 2
  · cases place with
    | asleep => cases hg
    | stuck => cases hg
    | leaving => cases hl
    | finished => cases hl
    | _ => exact Nat.succ_pos _

/-- The worker's own turn brings it one turn closer to the end of what is due. -/
theorem work_of_due (hu : Unblocked d turns) (h : Due d) (hg : d.place.goesOn = true) :
    d.work.place.goesOn = true ∧
      (d.mark? .worker = some .begins ∧ d.work.place.isDelivering = true ∧
          d.place.toDelivery = d.work.place.toCompletion + 1 ∨
        Due d.work ∧ d.place.toDelivery = d.work.place.toDelivery + 1) := by
  obtain ⟨f, s, c, place, log⟩ := d
  rcases h with ⟨last, rfl⟩ | ⟨rfl, hl⟩
  · exact ⟨rfl, .inl ⟨rfl, rfl, rfl⟩⟩
  cases place with
  | awake last => exact ⟨rfl, .inl ⟨rfl, rfl, rfl⟩⟩
  | top => exact ⟨rfl, .inr ⟨.inl ⟨s, rfl⟩, rfl⟩⟩
  | roused => exact ⟨rfl, .inr ⟨.inl ⟨s, rfl⟩, rfl⟩⟩
  | holding last batch =>
    have hp := place_holding hu
    exact ⟨by rw [hp]; rfl, .inr ⟨.inr ⟨rfl, by rw [hp]; exact hl⟩, by rw [hp]; rfl⟩⟩
  | handed last => exact ⟨rfl, .inr ⟨.inr ⟨rfl, hl⟩, rfl⟩⟩
  | delivered last =>
    obtain rfl : last = false := hl
    exact ⟨rfl, .inr ⟨.inr ⟨rfl, rfl⟩, rfl⟩⟩
  | asleep => cases hg
  | stuck => cases hg
  | leaving => cases hl
  | finished => cases hl

/-- What is due is complete after a few turns of the worker, if it does not sleep. -/
theorem delivery_of_turns (hu : Unblocked d turns) (hd : Due d) (hg : d.place.goesOn = true)
    (hn : d.place.toDelivery ≤ turns.countP Turn.isWorker) :
    [.begins, .completes].Sublist (d.marks turns) := by
  induction turns generalizing d with
  | nil => exact absurd hn (Nat.not_le.2 (toDelivery_pos hd hg))
  | cons t turns ih =>
    have hun := unblocked_next hu
    rw [marks_cons]
    rcases turn_cases t with rfl | ht
    · rw [List.countP_cons_of_pos rfl] at hn
      obtain ⟨hg, ⟨hm, hb, hk⟩ | ⟨hd, hk⟩⟩ := work_of_due hu hd hg
      · rw [hk] at hn
        have hc := completes_of_turns hun hb hg (Nat.le_of_succ_le_succ hn)
        rw [hm]
        exact (List.singleton_sublist.2 hc).cons_cons _
      · rw [hk] at hn
        exact (ih hun hd hg (Nat.le_of_succ_le_succ hn)).trans (List.sublist_append_right _ _)
    · have hp := place_of_other hg ht
      have hd : Due (d.next t) := by
        rcases next_of_due hd t with ⟨hb, -⟩ | ⟨-, hd⟩
        · rw [(d.next_of_other ht).1] at hb; cases hb
        · exact hd
      rw [List.countP_cons_of_neg (by simp [ht])] at hn
      exact (ih hun hd (hp ▸ hg) (hp ▸ hn)).trans (List.sublist_append_right _ _)

theorem work_of_shutdown (hu : Unblocked d turns) (h : d.shutdown = true)
    (hg : d.place.goesOn = true) :
    d.work.shutdown = true ∧ d.work.place.goesOn = true ∧
      d.work.place.toEnd ≤ d.place.toEnd - 1 := by
  obtain ⟨f, s, c, place, log⟩ := d
  obtain rfl : s = true := h
  cases place with
  | top =>
    simp only [work, Bool.or_true, if_true]
    exact ⟨rfl, rfl, Nat.le_refl _⟩
  | holding last batch =>
    have hp := place_holding hu
    exact ⟨rfl, by rw [hp]; rfl, by rw [hp]; cases last <;> exact Nat.le_refl _⟩
  | awake last => exact ⟨rfl, rfl, by cases last <;> exact Nat.le_refl _⟩
  | handed last => exact ⟨rfl, rfl, by cases last <;> exact Nat.le_refl _⟩
  | delivered last =>
    cases last
    · exact ⟨rfl, rfl, Nat.le_refl _⟩
    · exact ⟨rfl, rfl, Nat.le_refl _⟩
  | roused => exact ⟨rfl, rfl, Nat.le_refl _⟩
  | leaving => exact ⟨rfl, rfl, Nat.le_refl _⟩
  | finished => exact ⟨rfl, rfl, Nat.le_refl _⟩
  | asleep => cases hg
  | stuck => cases hg

theorem finished_of_turns (hu : Unblocked d turns) (hs : d.shutdown = true)
    (hg : d.place.goesOn = true) (hn : d.place.toEnd ≤ turns.countP Turn.isWorker) :
    (d.after turns).place = .finished := by
  induction turns generalizing d with
  | nil => exact Place.eq_finished hg (Nat.le_zero.1 hn)
  | cons t turns ih =>
    have hun := unblocked_next hu
    rcases turn_cases t with rfl | ht
    · obtain ⟨hs, hg, hk⟩ := work_of_shutdown hu hs hg
      rw [List.countP_cons_of_pos rfl] at hn
      exact ih hun hs hg (Nat.le_trans hk (Nat.sub_le_of_le_add hn))
    · have hp := place_of_other hg ht
      rw [List.countP_cons_of_neg (by simp [ht])] at hn
      exact ih hun ((d.next_of_other ht).2.2.2 hs) (hp ▸ hg) (hp ▸ hn)

theorem not_stuck_next (h : Unblocked d (t :: turns)) (hs : d.place ≠ .stuck) :
    (d.next t).place ≠ .stuck := by
  rcases turn_cases t with rfl | ht
  · obtain ⟨f, s, c, place, log⟩ := d
    cases place with
    | stuck => exact absurd rfl hs
    | top =>
      simp only [next, work]
      split <;> exact Place.noConfusion
    | holding last batch =>
      rw [next, place_holding h]
      exact Place.noConfusion
    | delivered last => cases last <;> exact Place.noConfusion
    | _ => exact Place.noConfusion
  · obtain ⟨-, hp | ⟨-, hp⟩, -⟩ := d.next_of_other ht
    · exact hp ▸ hs
    · rw [hp]; exact Place.noConfusion

theorem unblocked_after {as bs : List Turn} (h : Unblocked d (as ++ bs)) (hs : d.place ≠ .stuck) :
    Unblocked (d.after as) bs ∧ (d.after as).place ≠ .stuck := by
  induction as generalizing d with
  | nil => exact ⟨h, hs⟩
  | cons t as ih => exact ih (unblocked_next h) (not_stuck_next h hs)

end

/-- What a worker can be relied on for, in a state that it came to in some turns since it was
spawned. -/
structure LosesNothing (log : Pipeline) (turns : List Turn) (d : DrainLoop) : Prop where
  /-- It neither waits nor ends before a delivery that begins after the request is complete. -/
  served : d.place.isLast = false → ∀ later before m after,
    (d.next .requestFlush).marks later = before ++ m :: after → m.isPause = true →
      [.begins, .completes].Sublist before
  /-- It does not sleep on a request: a call is on its way, and wakes it up. -/
  called : d.place = .asleep → (d.flush || d.shutdown) = true →
    0 < d.calls ∧ (d.next .call).place = .roused
  delivers : ∀ later, (spawned log).Unblocked (turns ++ later) → d.flush = true →
    d.place.isLast = false →
    d.place ≠ .asleep → 7 ≤ later.countP Turn.isWorker →
      [.begins, .completes].Sublist (d.marks later)
  ends : ∀ later, (spawned log).Unblocked (turns ++ later) → d.shutdown = true →
    d.place ≠ .asleep →
    10 ≤ later.countP Turn.isWorker → (d.after later).place = .finished
  asked : d.place = .finished → .requestShutdown ∈ turns
  /-- Once it has ended, what was accepted before it was asked to has left the ring. -/
  emptied : ∀ before rest, turns = before ++ .requestShutdown :: rest →
    .requestShutdown ∉ before →
    d.place = .finished → log.pending ++ along accepted (spawned log) before <+:
      (along departed (spawned log) turns).flatMap Departure.entries
  ended : d.place = .finished → ∀ later, d.marks later = [] ∧ along begun d later = []
  /-- Place by place, what came is what left, batch after batch, and what waits. -/
  once : log.pending ++ along accepted (spawned log) turns =
    (along departed (spawned log) turns).flatMap Departure.entries ++ d.log.pending
  handsOver : along begun (spawned log) turns =
    (along handedOver (spawned log) turns).map Departure.entries ++ d.place.inHand
  deliveries : d.log.deliveries.toList =
    log.deliveries.toList ++ (along given (spawned log) turns).flatMap Departure.deliveries

theorem losesNothing (log : Pipeline) (turns : List Turn) :
    LosesNothing log turns ((spawned log).after turns) where
  served hl later before m after hm hp := by
    have hd : Due (((spawned log).after turns).next .requestFlush) := .inr ⟨rfl, hl⟩
    exact delivery_before_pause hd hm hp
  called ha hf := by
    have hw : Watched (spawned log) := fun h => by cases h
    have hc := watched_after hw turns ha hf
    refine ⟨hc, ?_⟩
    rw [next, if_neg (Nat.ne_of_gt hc)]
    show ((spawned log).after turns).rouse.place = .roused
    rw [rouse, ha]
  delivers later hu hf hl ha hn := by
    obtain ⟨hu, hs⟩ := unblocked_after hu Place.noConfusion
    exact delivery_of_turns hu (.inr ⟨hf, hl⟩) (Place.goesOn_of_ne ha hs)
      (Nat.le_trans (Place.toDelivery_le _) hn)
  ends later hu hf ha hn := by
    obtain ⟨hu, hs⟩ := unblocked_after hu Place.noConfusion
    exact finished_of_turns hu hf (Place.goesOn_of_ne ha hs) (Nat.le_trans (Place.toEnd_le _) hn)
  asked hf := by
    refine Classical.byContradiction fun hn => ?_
    have hq := (unasked_after (d := spawned log) ⟨rfl, rfl⟩ hn).2
    rw [hf] at hq
    cases hq
  emptied before rest ht hb hf := by
    subst ht
    exact departed_before_end (d := spawned log) ⟨rfl, rfl⟩ hb hf
  ended hf later := by
    obtain ⟨hm, hb, -⟩ := marks_of_finished hf
    exact ⟨hm, hb⟩
  once := (spawned log).after_conserves turns
  handsOver := (spawned log).after_hands turns
  deliveries := (spawned log).after_deliveries turns

end DrainLoop
end SocksGateway
