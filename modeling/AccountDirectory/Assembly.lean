import AccountDirectory.Client
import AccountDirectory.Gateway
import AccountDirectory.TokenSource
import AccountDirectory.Verifier

/-!
# Assembling an instance

An instance is the service with the collaborators of one tenant. It is built whole or not at all:
the failure of one collaborator is the failure of the build.
-/

namespace AccountDirectory

/-- The collaborators of one tenant, and the service over them. -/
structure Instance where
  service : Service
  tokens : TokenSource
  verifier : Verifier
  gateway : Gateway
  transport : TransportSettings

/-- Why an instance was not built: the part that failed, and the reason. -/
structure BuildError where
  part : String
  reason : SetupError
  deriving DecidableEq

/-- The wording of a failed build. -/
def BuildError.message (e : BuildError) : String := "failed to create " ++ e.part

/-- The wordings of a failed build, outermost first. -/
def BuildError.chain (e : BuildError) : List String := [e.message, e.reason.message]

namespace Instance

/-- Builds an instance, with what is logged on the way. -/
def build (settings : Settings) : List LogEntry × Except BuildError Instance :=
  let opening : List LogEntry :=
    [.span "build" [], .record [("domain", settings.domain)],
      .event .info "Initializing user_directory" []]
  match TokenSource.build settings.domain settings.serviceToken with
  | .error e => (opening, .error ⟨"M2M token manager", e⟩)
  | .ok tokens =>
    let ready := opening ++
      [.event .info "M2M token manager ready"
        [("client_id", Redaction.redact settings.serviceToken.clientId)]]
    match Verifier.build settings.domain settings.verifier with
    | .error e => (ready, .error ⟨"JWT verifier", e⟩)
    | .ok verifier =>
      (ready ++ [.event .info "JWT verifier ready" [("issuer", verifier.issuer)]],
        .ok
          { service := ⟨settings.domain⟩
            tokens
            verifier
            gateway := Gateway.ofDomain settings.domain
            transport := settings.transport })

/-- The program by which the instance does what the service asks of a collaborator. -/
def adapter (i : Instance) : (op : Collaborator) → Procedure op.Answer
  | .credential => i.tokens.getToken
  | .verify token scope => (i.verifier.verify token scope).run
  | .get token userId => (i.gateway.getUser token userId).run
  | .search token criteria term => (i.gateway.searchUsers token criteria term).run
  | .patch token userId metadata => (i.gateway.patchMetadata token userId metadata).run

/-- The program of a call of the service. -/
def program (i : Instance) (c : Service.Call) : Procedure (Except DirectoryError User) :=
  (i.service.program c).expand i.adapter

end Instance

end AccountDirectory
