import Mathlib.Data.List.Nodup
import SocksGateway.Proxy.Registry

namespace SocksGateway

theorem ProtocolMask.supports_iff (m : ProtocolMask) (p : Protocol) :
    m.supports p = true ↔ m = .both ∨ m.name = p.name := by
  cases m <;> cases p <;> simp [supports, name, Protocol.name]

namespace Registry

theorem ext {r s : Registry} (h : r.proxies = s.proxies) : r = s := by
  cases r; cases s; simp_all

theorem handle_injOn (r : Registry) {p q : Proxy} (hp : p ∈ r.proxies) (hq : q ∈ r.proxies)
    (h : p.handle = q.handle) : p = q := by
  have hn : (r.proxies.map (·.handle.number)).Nodup := by
    rw [r.numbered]
    exact List.nodup_range'
  exact List.inj_on_of_nodup_map hn hp hq (congrArg Handle.number h)

theorem ascending (r : Registry) :
    r.proxies.Pairwise fun p q => p.handle.number < q.handle.number := by
  have h : (r.proxies.map (·.handle.number)).Pairwise (· < ·) := by
    rw [r.numbered]
    exact List.pairwise_lt_range'
  exact List.pairwise_map.1 h

theorem get?_eq_some_iff (r : Registry) (h : Handle) (p : Proxy) :
    r.get? h = some p ↔ p ∈ r.proxies ∧ p.handle = h := by
  constructor
  · intro hp
    exact ⟨mem_of_get? hp, handle_of_get? hp⟩
  · intro hx
    obtain ⟨hp, rfl⟩ := hx
    cases hq : r.get? p.handle with
    | none => simpa using List.find?_eq_none.1 hq p hp
    | some q => rw [r.handle_injOn hp (mem_of_get? hq) (handle_of_get? hq).symm]

theorem contains_of_get? {r : Registry} {h : Handle} {p : Proxy} (hp : r.get? h = some p) :
    r.contains h = true := by
  rw [contains, hp]
  rfl

theorem get?_eq_none_iff (r : Registry) (h : Handle) :
    r.get? h = none ↔ ∀ p ∈ r.proxies, p.handle ≠ h := by
  simp [get?]

theorem get?_nextHandle (r : Registry) : r.get? r.nextHandle = none := by
  have h : ¬ r.contains r.nextHandle = true := by
    rw [contains_iff]
    simp [nextHandle]
  simpa [contains] using h

theorem get?_insert (r : Registry) (e : Endpoint) (c : Option Credentials) (m : ProtocolMask)
    (a : Bool) (h : Handle) :
    (r.insert e c m a).get? h =
      if h = r.nextHandle then some ⟨r.nextHandle, e, c, m, .stopped, a⟩ else r.get? h := by
  rw [get?, insert, List.find?_append]
  split
  next heq => rw [heq, ← get?, get?_nextHandle]; simp
  next hne => simp [get?, Ne.symm hne]

theorem get?_setState (r : Registry) (k : Handle) (s : ProxyState) (h : Handle) :
    (r.setState k s).get? h = (r.get? h).map fun p =>
      if h = k then { p with state := s } else p := by
  have hf : ∀ p : Proxy, (if p.handle = k then { p with state := s } else p).handle =
      p.handle := by
    intro p
    split <;> rfl
  rw [get?, setState, List.find?_map, get?]
  simp only [Function.comp_def, hf]
  cases hg : r.proxies.find? (·.handle = h) with
  | none => rfl
  | some p =>
    have hp : p.handle = h := by simpa using List.find?_some hg
    simp [hp]

section
variable (r : Registry) {f : Proxy → Proxy} (hf : ∀ p, (f p).handle = p.handle)

def map (r : Registry) (f : Proxy → Proxy) (hf : ∀ p, (f p).handle = p.handle) : Registry where
  proxies := r.proxies.map f
  numbered := by
    rw [List.length_map, ← r.numbered, List.map_map]
    exact List.map_congr_left fun p _ => congrArg Handle.number (hf p)

theorem size_map : (r.map f hf).size = r.size := List.length_map f

theorem nextHandle_map : (r.map f hf).nextHandle = r.nextHandle := by
  rw [nextHandle, size_map, nextHandle]

theorem get?_map (h : Handle) : (r.map f hf).get? h = (r.get? h).map f := by
  have hp : (fun p : Proxy => decide (p.handle = h)) ∘ f = fun p => decide (p.handle = h) :=
    funext fun p => by rw [Function.comp_apply, hf]
  rw [get?, map, List.find?_map, hp, get?]

theorem contains_map (h : Handle) : (r.map f hf).contains h = r.contains h := by
  rw [contains, contains, get?_map, Option.isSome_map]

end

end Registry
end SocksGateway
