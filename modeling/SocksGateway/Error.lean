import SocksGateway.Files.FileTree
import SocksGateway.Proxy.Basic

namespace SocksGateway

inductive ConfigFault
  | invalidEndpoint (endpoint : String)
  | invalidRange (range process : String)
  | conflictingAssociation (process : String)
  | zeroLogLimit
deriving DecidableEq, Inhabited

def ConfigFault.message : ConfigFault → String
  | invalidEndpoint endpoint => "Invalid proxy endpoint: " ++ endpoint
  | invalidRange range process => "Invalid CIDR notation: " ++ range ++ " for process " ++ process
  | conflictingAssociation process =>
    "Process " ++ process ++ " is associated with more than one proxy"
  | zeroLogLimit => "Log limit must be at least 1"

inductive GatewayError
  | invalidEndpoint (endpoint : String)
  | invalidRange (range : String)
  | unknownProxy (handle : Handle)
  | rangeNotFound (range process : String)
  | startFailed (handle : Handle) (reason : String)
  | alreadyRunning
  | invalidConfig (fault : ConfigFault)
  | file (error : FileError)
deriving DecidableEq, Inhabited

def GatewayError.message : GatewayError → String
  | invalidEndpoint endpoint => "Invalid proxy endpoint: " ++ endpoint
  | invalidRange range => "Invalid CIDR notation: " ++ range
  | unknownProxy handle => "Unknown proxy: " ++ handle.toText
  | rangeNotFound range process => "CIDR " ++ range ++ " not found for process " ++ process
  | startFailed handle reason => "Failed to start proxy " ++ handle.toText ++ ": " ++ reason
  | alreadyRunning => "Gateway is already running"
  | invalidConfig fault => "Configuration validation error: " ++ fault.message
  | file error => "IO error: " ++ error.message

end SocksGateway
