import RegistrySeeding.Client.Url

/-! The way requests take. The HTTP library settles which address is asked for and with what
authorization of its own; a transport is a function of a world; a request ends with a response, is
lost on the way, or never ends because the program is asked to stop. -/
namespace RegistrySeeding

/-- What the HTTP library makes of an address that a request is made for: the address asked, and
the authorization that goes with it unless the request is given one. -/
structure Http where
  prepare : Url → Url × Option String

/-- An address that names a user or a password is asked without them, under basic authorization;
any other is asked as it is. -/
structure Http.Documented (http : Http) : Prop where
  plain : ∀ address : Url, address.login? = none → http.prepare address = (address, none)
  login : ∀ (address : Url) login, address.login? = some login →
    http.prepare address = (address.withoutLogin, some (Url.authorization login))

def Http.basic : Http where
  prepare address :=
    match address.login? with
    | some login => (address.withoutLogin, some (Url.authorization login))
    | none => (address, none)

theorem Http.basicDocumented : Http.basic.Documented where
  plain address none := by simp only [basic, none]
  login address login named := by simp only [basic, named]

structure Request where
  url : Url
  authorization : Option String
  body : String
  timeoutMs : Nat
  deriving DecidableEq, Repr

namespace Request

def method : String := "POST"

def contentType : String := "application/json"

end Request

inductive Loss where
  | unanswered
  | unansweredInTime
  | bodyCut
  | bodyNotInTime
  deriving DecidableEq, Repr

inductive Delivery where
  | response (status : Nat) (body : String)
  | lost (loss : Loss)
  | interrupted
  deriving DecidableEq, Repr

structure Transport (σ : Type) where
  send : Request → σ → Delivery × σ

end RegistrySeeding
