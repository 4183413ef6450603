/-!
# Settings

The settings of a tenant, section by section, with their defaults. Spans of time are given in
seconds. Where the settings come from is not decided here.
-/

namespace AccountDirectory

/-- The application that obtains service tokens. -/
structure ServiceTokenSettings where
  clientId : String := ""
  clientSecret : String := ""
  /-- The audience to ask for, that of the tenant's directory when there is none. -/
  audience : Option String := none
  /-- How many seconds before its expiry a token is replaced. -/
  refreshMargin : Nat := 60
  deriving DecidableEq

/-- The verification of callers' tokens. -/
structure VerifierSettings where
  /-- The issuer to accept, that of the tenant when there is none. -/
  issuer : Option String := none
  /-- The audience to accept, any when there is none. -/
  audience : Option String := none
  /-- How many seconds a key set is used. -/
  keySetLifetime : Nat := 300
  /-- How many seconds after its expiry a token is still accepted. -/
  leeway : Nat := 60
  deriving DecidableEq

/-- The transport of requests. -/
structure TransportSettings where
  timeout : Nat := 30
  connectTimeout : Nat := 10
  deriving DecidableEq

/-- The settings of a tenant. -/
structure Settings where
  domain : String := ""
  serviceToken : ServiceTokenSettings := {}
  verifier : VerifierSettings := {}
  transport : TransportSettings := {}
  deriving DecidableEq

end AccountDirectory
