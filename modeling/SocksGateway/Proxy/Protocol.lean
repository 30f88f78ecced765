import SocksGateway.Text.UnknownName

namespace SocksGateway

inductive Protocol
  | tcp
  | udp
deriving DecidableEq, Inhabited

namespace Protocol

def name : Protocol → String
  | tcp => "tcp"
  | udp => "udp"

instance : ToString Protocol := ⟨name⟩

def ofText (text : String) : Except UnknownName Protocol :=
  match asciiLower text with
  | "tcp" => .ok tcp
  | "udp" => .ok udp
  | other => .error ⟨"protocol", other⟩

end Protocol

inductive ProtocolMask
  | tcp
  | udp
  | both
deriving DecidableEq, Inhabited

namespace ProtocolMask

def supports : ProtocolMask → Protocol → Bool
  | both, _ => true
  | tcp, .tcp => true
  | udp, .udp => true
  | _, _ => false

def text : ProtocolMask → String
  | tcp => "tcp"
  | udp => "udp"
  | both => "tcp+udp"

instance : ToString ProtocolMask := ⟨text⟩

def name : ProtocolMask → String
  | tcp => "tcp"
  | udp => "udp"
  | both => "both"

/-- Every name a configuration may use, in the order in which a refusal lists them. -/
def names : List String := ["TCP", "tcp", "UDP", "udp", "BOTH", "both"]

def ofName? : String → Option ProtocolMask
  | "tcp" | "TCP" => some tcp
  | "udp" | "UDP" => some udp
  | "both" | "BOTH" => some both
  | _ => none

def label : ProtocolMask → String
  | tcp => "Tcp"
  | udp => "Udp"
  | both => "Both"

theorem ofName?_name (m : ProtocolMask) : ofName? m.name = some m := by cases m <;> rfl

end ProtocolMask
end SocksGateway
