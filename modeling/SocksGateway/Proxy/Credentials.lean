import SocksGateway.Text.Description

namespace SocksGateway

structure Credentials where
  username : String
  password : String
deriving DecidableEq, Inhabited

namespace Credentials

/-- Without a user name there are no credentials; without a password it is empty. -/
def ofParts? (username password : Option String) : Option Credentials :=
  match username with
  | some user => if user = "" then none else some ⟨user, password.getD ""⟩
  | none => none

def description (c : Credentials) : String :=
  Description.record "Credentials"
    [("username", Quoted.string c.username), ("password", Quoted.string "<redacted>")]

def optionDescription (c : Option Credentials) : String := Description.option (c.map description)

theorem description_password (u p q : String) :
    (Credentials.mk u p).description = (Credentials.mk u q).description := rfl

end Credentials
end SocksGateway
