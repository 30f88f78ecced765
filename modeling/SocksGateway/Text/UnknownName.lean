import SocksGateway.Text.LowerCase

namespace SocksGateway

structure UnknownName where
  kind : String
  name : String
deriving DecidableEq

def UnknownName.message (e : UnknownName) : String := "unknown " ++ e.kind ++ ": " ++ e.name

def asciiLower (s : String) : String := String.ofList (LowerCase.ascii s.toList)

end SocksGateway
