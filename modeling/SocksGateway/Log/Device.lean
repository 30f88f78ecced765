/-!
Devices that take bytes as they please. Each call of a device is answered by the next of its
replies, and once they are used up it takes whatever it is given.
-/
namespace SocksGateway

inductive WriteReply
  | all
  | atMost (count : Nat)
  | interrupted
  | failed (reason : String)
deriving DecidableEq, Inhabited

inductive FlushReply
  | done
  | failed (reason : String)
deriving DecidableEq, Inhabited

structure Device where
  writes : List WriteReply := []
  flushes : List FlushReply := []
  taken : Array UInt8 := #[]
  writeCalls : Nat := 0
  flushCalls : Nat := 0
deriving DecidableEq, Inhabited

structure Transfer where
  taken : List UInt8
  calls : Nat
  replies : List WriteReply
  failure : Option String

namespace Transfer

/-- Calls go on after a part was taken and after an interruption. A reply that takes nothing is a
failure. -/
def run : List WriteReply → List UInt8 → Transfer
  | replies, [] => ⟨[], 0, replies, none⟩
  | [], bytes => ⟨bytes, 1, [], none⟩
  | .all :: replies, bytes => ⟨bytes, 1, replies, none⟩
  | .atMost n :: replies, bytes =>
    if n = 0 then ⟨[], 1, replies, some "failed to write whole buffer"⟩
    else
      let t := run replies (bytes.drop n)
      { t with taken := bytes.take n ++ t.taken, calls := t.calls + 1 }
  | .interrupted :: replies, bytes =>
    let t := run replies bytes
    { t with calls := t.calls + 1 }
  | .failed reason :: replies, _ => ⟨[], 1, replies, some reason⟩

/-- What is taken is the front of the bytes, and all of them if nothing failed. -/
theorem taken_prefix (replies : List WriteReply) (bytes : List UInt8) :
    (run replies bytes).taken <+: bytes ∧
      ((run replies bytes).failure = none → (run replies bytes).taken = bytes) := by
  fun_induction run replies bytes with
  | case1 => simp
  | case2 => simp
  | case3 => simp
  | case4 => simp
  | case5 replies bytes _ n hn t ih =>
    obtain ⟨⟨u, hu⟩, h⟩ := ih
    refine ⟨⟨u, ?_⟩, fun hf => ?_⟩
    · rw [List.append_assoc, hu, List.take_append_drop]
    · rw [h hf, List.take_append_drop]
  | case6 replies bytes _ t ih => exact ih
  | case7 => simp

end Transfer

namespace Device

def write (d : Device) (bytes : List UInt8) : Device × Option String :=
  let t := Transfer.run d.writes bytes
  ({ d with
      writes := t.replies
      taken := d.taken ++ t.taken.toArray
      writeCalls := d.writeCalls + t.calls },
    t.failure)

def flush (d : Device) : Device × Option String :=
  let d := { d with flushCalls := d.flushCalls + 1 }
  match d.flushes with
  | [] => (d, none)
  | .done :: rest => ({ d with flushes := rest }, none)
  | .failed reason :: rest => ({ d with flushes := rest }, some reason)

end Device
end SocksGateway
