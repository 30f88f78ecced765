import SocksGateway.Text.Blank
import SocksGateway.Text.LowerCase

namespace SocksGateway.ProcessName

def trimmed (name : String) : String := String.ofList (Blank.trim name.toList)

def key (name : String) : String := String.ofList (LowerCase.lower (Blank.trim name.toList))

end SocksGateway.ProcessName
