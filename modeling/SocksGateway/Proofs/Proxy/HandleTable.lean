import SocksGateway.Proofs.Proxy.Lookup

/-!
Registries kept as tables: a counter that gives the next handle, and proxies under their handles in
no order, which are put in order only to be listed. Until its counter runs over such a table answers
as a registry that went through the same changes, in whatever order its entries are.
-/
namespace SocksGateway

structure Registration where
  endpoint : Endpoint
  credentials : Option Credentials
  protocols : ProtocolMask
  autostart : Bool
deriving DecidableEq

def Registration.proxy (reg : Registration) (h : Handle) : Proxy :=
  ⟨h, reg.endpoint, reg.credentials, reg.protocols, .stopped, reg.autostart⟩

def Proxy.registration (p : Proxy) : Registration :=
  ⟨p.endpoint, p.credentials, p.protocols, p.autostart⟩

inductive RegistryChange
  | insert (registration : Registration)
  | setState (handle : Handle) (state : ProxyState)

def RegistryChange.added : RegistryChange → List Registration
  | insert reg => [reg]
  | setState _ _ => []

namespace Registry

def change (r : Registry) : RegistryChange → Registry
  | .insert reg => r.insert reg.endpoint reg.credentials reg.protocols reg.autostart
  | .setState h state => r.setState h state

def changes (r : Registry) (cs : List RegistryChange) : Registry := cs.foldl change r

theorem changes_append (r : Registry) (cs ds : List RegistryChange) :
    r.changes (cs ++ ds) = (r.changes cs).changes ds := List.foldl_append

theorem registrations_change (r : Registry) (c : RegistryChange) :
    (r.change c).proxies.map Proxy.registration = r.proxies.map Proxy.registration ++ c.added := by
  cases c with
  | insert reg => exact List.map_append
  | setState h state =>
    rw [RegistryChange.added, List.append_nil, change, setState, List.map_map]
    apply List.map_congr_left
    intro p _
    simp only [Function.comp_apply]
    split <;> rfl

theorem registrations_changes (r : Registry) (cs : List RegistryChange) :
    (r.changes cs).proxies.map Proxy.registration =
      r.proxies.map Proxy.registration ++ cs.flatMap RegistryChange.added := by
  induction cs generalizing r with
  | nil => exact (List.append_nil _).symm
  | cons c cs ih =>
    rw [List.flatMap_cons, ← List.append_assoc, ← registrations_change]
    exact ih (r.change c)

theorem size_changes (r : Registry) (cs : List RegistryChange) :
    (r.changes cs).size = r.size + (cs.flatMap RegistryChange.added).length := by
  have h := congrArg List.length (r.registrations_changes cs)
  rw [List.length_map, List.length_append, List.length_map] at h
  exact h

theorem get?_changes {r : Registry} {h : Handle} {p : Proxy} (hp : r.get? h = some p)
    (cs : List RegistryChange) :
    ∃ state, (r.changes cs).get? h = some { p with state } := by
  induction cs generalizing r p with
  | nil => exact ⟨p.state, hp⟩
  | cons c cs ih =>
    have hnow : ∃ state, (r.change c).get? h = some { p with state } := by
      cases c with
      | insert reg =>
        have hne : h ≠ r.nextHandle := by
          rintro rfl
          rw [get?_nextHandle] at hp
          cases hp
        refine ⟨p.state, ?_⟩
        rw [change, get?_insert, if_neg hne]
        exact hp
      | setState k state =>
        rw [change, get?_setState, hp, Option.map_some]
        by_cases hk : h = k
        · exact ⟨state, by rw [if_pos hk]⟩
        · exact ⟨p.state, by rw [if_neg hk]⟩
    obtain ⟨state, hs⟩ := hnow
    obtain ⟨state', hs'⟩ := ih hs
    exact ⟨state', hs'⟩

theorem get?_of_added {r : Registry} {cs : List RegistryChange} {reg : Registration}
    (h : cs.flatMap RegistryChange.added = [reg]) :
    ∃ state, (r.changes cs).get? r.nextHandle = some { reg.proxy r.nextHandle with state } := by
  induction cs generalizing r with
  | nil => cases h
  | cons c cs ih =>
    cases c with
    | insert reg' =>
      obtain ⟨rfl, -⟩ := List.cons.inj h
      have hnow : (r.change (.insert reg')).get? r.nextHandle = some (reg'.proxy r.nextHandle) := by
        rw [change, get?_insert, if_pos rfl]
        rfl
      exact get?_changes hnow cs
    | setState k state =>
      have hnext : (r.change (.setState k state)).nextHandle = r.nextHandle := by
        rw [change, nextHandle, size_setState, nextHandle]
      rw [← hnext]
      exact ih h

end Registry

structure HandleTable where
  next : UInt64 := 1
  entries : List (Handle × Proxy) := []

namespace HandleTable

def insert (t : HandleTable) (reg : Registration) : HandleTable :=
  let h : Handle := ⟨t.next.toNat⟩
  ⟨t.next + 1, (h, reg.proxy h) :: t.entries.filter (·.1 ≠ h)⟩

def setState (t : HandleTable) (h : Handle) (state : ProxyState) : HandleTable :=
  { t with entries := t.entries.map fun x => if x.1 = h then (x.1, { x.2 with state }) else x }

def change (t : HandleTable) : RegistryChange → HandleTable
  | .insert reg => t.insert reg
  | .setState h state => t.setState h state

def lookup (t : HandleTable) (h : Handle) : Option Proxy :=
  (t.entries.find? (·.1 = h)).map Prod.snd

def contains (t : HandleTable) (h : Handle) : Bool := t.entries.any (·.1 = h)

def size (t : HandleTable) : Nat := t.entries.length

def listed (t : HandleTable) : List Proxy :=
  (t.entries.map Prod.snd).mergeSort fun p q => p.handle.number ≤ q.handle.number

/-- What a table can come to in a number of changes, if its entries may change their places at any
time. -/
inductive Reaches : HandleTable → List RegistryChange → HandleTable → Prop
  | rest (t : HandleTable) : Reaches t [] t
  | reorder {t t' : HandleTable} {cs : List RegistryChange} (entries : List (Handle × Proxy))
      (same : t.entries.Perm entries) (later : Reaches { t with entries } cs t') : Reaches t cs t'
  | change {t t' : HandleTable} {c : RegistryChange} {cs : List RegistryChange}
      (later : Reaches (t.change c) cs t') : Reaches t (c :: cs) t'

/-- The counter is ahead of all handles that were given, and each proxy stands once, under its own
handle. -/
structure Represents (t : HandleTable) (r : Registry) : Prop where
  next : t.next.toNat = r.size + 1
  entries : t.entries.Perm (r.proxies.map fun p => (p.handle, p))

theorem represents_empty : Represents {} .empty := ⟨rfl, .nil⟩

namespace Represents
variable {t : HandleTable} {r : Registry}

theorem mem_entries_iff (ht : t.Represents r) (x : Handle × Proxy) :
    x ∈ t.entries ↔ x.2 ∈ r.proxies ∧ x.1 = x.2.handle := by
  rw [ht.entries.mem_iff, List.mem_map]
  constructor
  · rintro ⟨p, hp, rfl⟩
    exact ⟨hp, rfl⟩
  · rintro ⟨hp, hk⟩
    exact ⟨x.2, hp, Prod.ext hk.symm rfl⟩

theorem insert (ht : t.Represents r) (hroom : r.size + 2 < UInt64.size) (reg : Registration) :
    (t.insert reg).Represents (r.change (.insert reg)) := by
  have hh : (⟨t.next.toNat⟩ : Handle) = r.nextHandle := congrArg Handle.mk ht.next
  have hfresh : ∀ x ∈ t.entries, decide (x.1 ≠ r.nextHandle) = true := by
    intro x hx
    obtain ⟨hp, hk⟩ := (ht.mem_entries_iff x).1 hx
    exact decide_eq_true (hk ▸ (r.get?_eq_none_iff r.nextHandle).1 r.get?_nextHandle x.2 hp)
  constructor
  · have hsize : (r.change (.insert reg)).size = r.size + 1 := r.size_insert _ _ _ _
    rw [hsize]
    show (t.next + 1).toNat = _
    rw [UInt64.toNat_add, ht.next]
    exact Nat.mod_eq_of_lt hroom
  · show ((⟨t.next.toNat⟩, reg.proxy ⟨t.next.toNat⟩) ::
        t.entries.filter (·.1 ≠ ⟨t.next.toNat⟩)).Perm _
    rw [hh, List.filter_eq_self.2 hfresh, Registry.change, Registry.insert, List.map_append]
    exact (ht.entries.cons _).trans (List.perm_append_singleton _ _).symm

theorem setState (ht : t.Represents r) (h : Handle) (state : ProxyState) :
    (t.setState h state).Represents (r.change (.setState h state)) := by
  constructor
  · exact ht.next.trans (congrArg (· + 1) (r.size_setState h state).symm)
  · refine (ht.entries.map _).trans (.of_eq ?_)
    rw [Registry.change, Registry.setState, List.map_map, List.map_map]
    apply List.map_congr_left
    intro p _
    simp only [Function.comp_apply]
    split <;> rfl

theorem changes (ht : t.Represents r) {cs : List RegistryChange} {t' : HandleTable}
    (hr : t.Reaches cs t') (hroom : (r.changes cs).size + 1 < UInt64.size) :
    t'.Represents (r.changes cs) := by
  induction hr generalizing r with
  | rest t => exact ht
  | reorder entries same _ ih => exact ih ⟨ht.next, same.symm.trans ht.entries⟩ hroom
  | @change t t' c cs later ih =>
    refine ih ?_ hroom
    cases c with
    | insert reg =>
      refine ht.insert ?_ reg
      have hsize := r.size_changes (.insert reg :: cs)
      rw [List.flatMap_cons, List.length_append, RegistryChange.added,
        List.length_singleton] at hsize
      omega
    | setState h state => exact ht.setState h state

theorem lookup_eq (ht : t.Represents r) (h : Handle) : t.lookup h = r.get? h := by
  unfold lookup
  cases hx : t.entries.find? (·.1 = h) with
  | none =>
    refine ((r.get?_eq_none_iff h).2 fun p hp hk => ?_).symm
    have hmem := (ht.mem_entries_iff (p.handle, p)).2 ⟨hp, rfl⟩
    simpa [hk] using List.find?_eq_none.1 hx _ hmem
  | some x =>
    obtain ⟨hp, hk⟩ := (ht.mem_entries_iff x).1 (List.mem_of_find?_eq_some hx)
    have hh : x.1 = h := by simpa using List.find?_some hx
    exact ((r.get?_eq_some_iff h x.2).2 ⟨hp, hk.symm.trans hh⟩).symm

theorem contains_eq (ht : t.Represents r) (h : Handle) : t.contains h = r.contains h := by
  rw [Registry.contains, ← ht.lookup_eq, lookup, Option.isSome_map, List.isSome_find?, contains]

theorem keys_nodup (ht : t.Represents r) : (t.entries.map Prod.fst).Nodup := by
  rw [(ht.entries.map Prod.fst).nodup_iff, List.map_map]
  refine List.Nodup.of_map Handle.number ?_
  rw [List.map_map]
  exact r.numbered ▸ List.nodup_range'

theorem size_eq (ht : t.Represents r) : t.size = r.size := by
  rw [size, ht.entries.length_eq, List.length_map, Registry.size]

theorem listed_eq (ht : t.Represents r) : t.listed = r.proxies := by
  have hsame : t.listed.Perm r.proxies := by
    refine (List.mergeSort_perm _ _).trans ((ht.entries.map _).trans (.of_eq ?_))
    rw [List.map_map]
    exact List.map_id' _
  have hsorted : t.listed.Pairwise fun p q => p.handle.number ≤ q.handle.number := by
    have h : t.listed.Pairwise fun p q => decide (p.handle.number ≤ q.handle.number) = true := by
      apply List.pairwise_mergeSort
      · intro p q s hpq hqs
        exact decide_eq_true (Nat.le_trans (of_decide_eq_true hpq) (of_decide_eq_true hqs))
      · intro p q
        simpa using Nat.le_total _ _
    exact h.imp of_decide_eq_true
  refine List.Perm.eq_of_pairwise ?_ hsorted (r.ascending.imp Nat.le_of_lt) hsame
  -- two proxies of one handle are the same
  intro p q hp hq hle hge
  refine r.handle_injOn (hsame.mem_iff.1 hp) hq ?_
  exact congrArg Handle.mk (Nat.le_antisymm hle hge)

end Represents
end HandleTable
end SocksGateway
