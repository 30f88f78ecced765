import SocksGateway.Proofs.Log.Gains

/-!
The threshold of a log. Whoever wants an entry in a log offers it at a level; the threshold alone
decides whether it is accepted, and the log makes nothing else of it. So a log with a threshold
accepts what a log that accepts everything does, less the entries at a level that the threshold does
not admit.
-/
namespace SocksGateway

/-- An entry as it is offered, before a log puts its time to it. -/
structure Offer where
  level : Level
  event : EventKind
  payload : Payload
deriving DecidableEq, Inhabited

/-- An entry of a log as it was offered at a level. -/
def Entry.offeredAt (level : Level) (e : Entry) : Offer := ⟨level, e.event, e.payload⟩

namespace LogStep

def offer? : LogStep → Option Offer
  | append level event payload => some ⟨level, event, payload⟩
  | message level text => some ⟨level, .message, .description text⟩
  | _ => none

def level? : LogStep → Option Level
  | setLevel level => some level
  | _ => none

end LogStep

def offers (steps : List LogStep) : List Offer := steps.filterMap LogStep.offer?

theorem offers_append (as bs : List LogStep) : offers (as ++ bs) = offers as ++ offers bs :=
  List.filterMap_append

namespace Pipeline

/-- What a step brings into the log, with the level at which it was offered. -/
def graded (p : Pipeline) (s : LogStep) : List (Level × Entry) :=
  s.offer?.toList.flatMap fun o => (p.accepted s).map (o.level, ·)

theorem graded_append (p : Pipeline) (level : Level) (event : EventKind) (payload : Payload) :
    p.graded (.append level event payload) =
      (p.arrival (p.append level event payload).1 event payload).map (level, ·) :=
  List.flatMap_singleton _ _

theorem map_snd_graded (p : Pipeline) (s : LogStep) : (p.graded s).map (·.2) = p.accepted s := by
  have happend : ∀ level event payload, (p.graded (.append level event payload)).map (·.2) =
      p.arrival (p.append level event payload).1 event payload := by
    intro level event payload
    rw [graded_append, List.map_map]
    exact List.map_id _
  cases s with
  | append level event payload => exact happend level event payload
  | message level text => exact happend level .message (.description text)
  | _ => rfl

theorem map_snd_along_graded (p : Pipeline) (steps : List LogStep) :
    (along graded p steps).map (·.2) = along accepted p steps := by
  induction steps generalizing p with
  | nil => rfl
  | cons s steps ih => rw [along, along, List.map_append, map_snd_graded, ih]

theorem offered_graded (p : Pipeline) (s : LogStep) :
    (p.graded s).map (fun x => x.2.offeredAt x.1) =
      s.offer?.toList.filter (p.level.allows ·.level) := by
  have happend : ∀ level event payload,
      (p.graded (.append level event payload)).map (fun x => x.2.offeredAt x.1) =
        [Offer.mk level event payload].filter (p.level.allows ·.level) := by
    intro level event payload
    rw [graded_append]
    cases h : p.level.allows level with
    | true =>
      rw [append_of_allowed h]
      simp [h, arrival, entry, Entry.offeredAt]
    | false =>
      rw [append_of_not_allowed h]
      simp [h, arrival]
  cases s with
  | append level event payload => exact happend level event payload
  | message level text => exact happend level .message (.description text)
  | _ => rfl

theorem level_perform (p : Pipeline) {s : LogStep} (hs : s.level? = none) :
    (p.perform s).level = p.level := by
  have hdeliver : ∀ agent, (p.deliver agent).log.level = p.level := by
    intro agent
    unfold deliver
    dsimp only
    split
    · rfl
    · exact (onMirror_level_clock _ _ _).1
  cases s with
  | append level event payload => exact (p.gains_append level event payload).level
  | message level text => exact (p.gains_append level .message (.description text)).level
  | setLevel level => cases hs
  | mirrorTo path =>
    simp only [perform, mirrorTo]
    cases Mirror.openFile p.files path <;> rfl
  | deliver agent => exact hdeliver agent
  | work w =>
    rcases p.work_cases w with ⟨-, hw⟩ | ⟨-, diagnostics, hw⟩
    · rw [perform, hw]
      exact hdeliver .worker
    · rw [perform, hw]
  | _ => rfl

/-- A log accepts what it is offered, as far as its threshold admits it. -/
theorem offered_along {p : Pipeline} {steps : List LogStep}
    (hs : ∀ s ∈ steps, s.level? = none) :
    (along graded p steps).map (fun x => x.2.offeredAt x.1) =
      (offers steps).filter (p.level.allows ·.level) := by
  induction steps generalizing p with
  | nil => rfl
  | cons s steps ih =>
    obtain ⟨hfirst, hrest⟩ := List.forall_mem_cons.1 hs
    have hsplit : offers (s :: steps) = s.offer?.toList ++ offers steps := by
      unfold offers
      rw [List.filterMap_cons]
      cases s.offer? <;> rfl
    rw [along, List.map_append, offered_graded, ih hrest, level_perform p hfirst,
      hsplit, List.filter_append]

theorem level_after {p : Pipeline} {steps : List LogStep} (hs : ∀ s ∈ steps, s.level? = none) :
    (p.after steps).level = p.level := by
  induction steps generalizing p with
  | nil => rfl
  | cons s steps ih =>
    obtain ⟨hfirst, hrest⟩ := List.forall_mem_cons.1 hs
    exact (ih hrest).trans (p.level_perform hfirst)

end Pipeline
end SocksGateway
