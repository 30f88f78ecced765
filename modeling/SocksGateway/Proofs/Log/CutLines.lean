import SocksGateway.Proofs.Log.Framing
import SocksGateway.Proofs.Text.CutText

namespace SocksGateway

open Utf8 (Apart Front decode)

theorem Entry.encode_line (e : Entry) : Utf8.encode e.line.toList = e.lineBytes :=
  (Utf8.bytes_eq e.line).symm

namespace Share

/-- Lines begin with a brace, so none goes on with a character that was cut in the line before. -/
theorem apart_bytes {ss : List Share} (hs : ∀ s ∈ ss, s.bytes <+: s.entry.lineBytes) :
    Apart (ss.flatMap Share.bytes) := by
  induction ss with
  | nil => nofun
  | cons s ss ih =>
    obtain ⟨hs, hss⟩ := List.forall_mem_cons.1 hs
    rw [List.flatMap_cons]
    cases hb : s.bytes with
    | nil => exact ih hss
    | cons b bs =>
      rw [hb, Entry.lineBytes_eq, Entry.recordBytes_eq, List.cons_append] at hs
      intro b' hb'
      obtain rfl : b = b' := Option.some.inj hb'
      rw [(List.cons_prefix_cons.1 hs).1]
      exact .inl (by decide)

theorem decode_bytes {ss : List Share} (hs : ∀ s ∈ ss, s.bytes <+: s.entry.lineBytes) :
    decode (ss.flatMap Share.bytes) = ss.flatMap fun s => decode s.bytes := by
  induction ss with
  | nil => rfl
  | cons s ss ih =>
    obtain ⟨hs, hss⟩ := List.forall_mem_cons.1 hs
    rw [← s.entry.encode_line] at hs
    rw [List.flatMap_cons, List.flatMap_cons, (Utf8.decode_prefix hs).2 _ (apart_bytes hss), ih hss]

end Share

/-- What a device took reads, line by line, as the fronts of the lines of the entries in their
order, each with at most one replacement character behind it. -/
theorem Mirror.decode_taken (files : FileTree) (writes : List WriteReply)
    (flushes : List FlushReply) (calls : List MirrorCall) :
    let m := ofDevice { writes, flushes }
    decode (m.after files calls).taken =
      (m.shares files calls).flatMap (fun s => decode s.bytes) ∧
      ∀ s ∈ m.shares files calls, Front (decode s.bytes) s.entry.line.toList := by
  intro m
  obtain ⟨htaken, -, hshares⟩ := after_taken (m := m) files rfl calls
  refine ⟨?_, fun s hs => ?_⟩
  · rw [htaken]
    exact Share.decode_bytes hshares
  · have hprefix := hshares s hs
    rw [← s.entry.encode_line] at hprefix
    exact (Utf8.decode_prefix hprefix).1

end SocksGateway
