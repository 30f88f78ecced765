import SocksGateway.Proxy.Basic

namespace SocksGateway

structure Registry where
  proxies : List Proxy
  numbered : proxies.map (·.handle.number) = List.range' 1 proxies.length

namespace Registry

def empty : Registry := ⟨[], rfl⟩

instance : Inhabited Registry := ⟨empty⟩

def size (r : Registry) : Nat := r.proxies.length

def isEmpty (r : Registry) : Bool := r.proxies.isEmpty

def get? (r : Registry) (h : Handle) : Option Proxy := r.proxies.find? (·.handle = h)

def contains (r : Registry) (h : Handle) : Bool := (r.get? h).isSome

def nextHandle (r : Registry) : Handle := ⟨r.size + 1⟩

/-- Registers a stopped proxy under the next handle. -/
def insert (r : Registry) (endpoint : Endpoint) (credentials : Option Credentials)
    (protocols : ProtocolMask) (autostart : Bool) : Registry where
  proxies :=
    r.proxies ++ [⟨r.nextHandle, endpoint, credentials, protocols, .stopped, autostart⟩]
  numbered := by
    rw [List.map_append, r.numbered, List.length_append,
      List.length_singleton, List.range'_1_concat]
    simp [nextHandle, size, Nat.add_comm]

def setState (r : Registry) (h : Handle) (state : ProxyState) : Registry where
  proxies := r.proxies.map fun p => if p.handle = h then { p with state } else p
  numbered := by
    rw [List.length_map, ← r.numbered, List.map_map]
    apply List.map_congr_left
    intro p _
    simp only [Function.comp_apply]
    split <;> rfl

def running (r : Registry) : List Proxy := r.proxies.filter (·.isRunning)

def pending (r : Registry) : List Handle := (r.proxies.filter (·.isPending)).map (·.handle)

def description (r : Registry) : String :=
  Description.record "ProxyRegistry"
    [("proxies", Description.list (r.proxies.map (·.description)))]

theorem handle_of_get? {r : Registry} {h : Handle} {p : Proxy} (hp : r.get? h = some p) :
    p.handle = h := by
  simpa using List.find?_some hp

theorem mem_of_get? {r : Registry} {h : Handle} {p : Proxy} (hp : r.get? h = some p) :
    p ∈ r.proxies := List.mem_of_find?_eq_some hp

theorem size_insert (r : Registry) (e : Endpoint) (c : Option Credentials) (m : ProtocolMask)
    (a : Bool) : (r.insert e c m a).size = r.size + 1 := by
  simp [size, insert]

theorem size_setState (r : Registry) (h : Handle) (s : ProxyState) :
    (r.setState h s).size = r.size := by
  simp [size, setState]

theorem contains_iff (r : Registry) (h : Handle) :
    r.contains h = true ↔ 1 ≤ h.number ∧ h.number ≤ r.size := by
  have hm : h.number ∈ r.proxies.map (·.handle.number) ↔
      1 ≤ h.number ∧ h.number ≤ r.size := by
    rw [r.numbered, List.mem_range'_1]
    unfold size
    omega
  rw [← hm, contains, get?, List.find?_isSome, List.mem_map]
  constructor
  · rintro ⟨p, hp, he⟩
    exact ⟨p, hp, by rw [of_decide_eq_true he]⟩
  · rintro ⟨p, hp, he⟩
    refine ⟨p, hp, decide_eq_true ?_⟩
    cases hh : p.handle
    cases h
    simp_all

end Registry
end SocksGateway
