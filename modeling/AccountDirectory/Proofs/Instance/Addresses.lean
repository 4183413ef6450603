import AccountDirectory.Proofs.Instance.Build
import AccountDirectory.Proofs.Tenant

/-!
# The addresses of an instance

The collaborators of an instance make their addresses from the domain, each on its own. An instance
`Addresses` a base if all of them agree on it: the directory's users and searches, the token
endpoint, the audience that is asked for, the issuer that is accepted and its key set.

`build_addresses` says when they agree. An instance that is built for a domain that is more than
slashes addresses one base, and it is a base address (`Tenant.IsBase`).

**Slashes.** A domain of nothing but slashes is not blank, so an instance is built for it. Its token
endpoint is at `https:///oauth/token`, while the directory, which trims slashes from its base once
more, is at `https:/api/v2/users`. There is no base that such an instance addresses
(`not_built_for_one_base`).
-/

namespace AccountDirectory.Instance

open Tenant (IsBase IsSlashes baseAddress trimSlashes)

variable {i : Instance} {settings : Settings} {base : String}

/-- **The collaborators of the instance agree on a base.** -/
structure Addresses (i : Instance) (base : String) : Prop where
  /-- The addresses of users begin with it, -/
  users : ∀ userId, (base ++ "/api/v2/users").toList <+: (i.gateway.userAddress userId).toList
  /-- and so do those of searches. -/
  searches : ∀ criteria term,
    (base ++ "/api/v2/users").toList <+: (i.gateway.searchAddress criteria term).toList
  /-- It has the token endpoint, -/
  token : i.tokens.address = base ++ "/oauth/token"
  /-- and is what tokens are asked for. -/
  audience : i.tokens.audience = base ++ "/api/v2/"
  /-- It is the issuer of callers' tokens, -/
  issuer : i.verifier.issuer = base ++ "/"
  /-- and has the key set. -/
  keys : i.verifier.keysAddress = base ++ "/.well-known/jwks.json"

/-! ### What is built -/

/-- **The addresses of what is built**, from the address for the domain. -/
theorem addresses_of_build (hissuer : Tenant.unlessBlank settings.verifier.issuer = none)
    (haudience : Tenant.unlessBlank settings.serviceToken.audience = none)
    (h : (build settings).2 = .ok i) :
    let base := baseAddress settings.domain
    i.tokens.address = base ++ "/oauth/token" ∧ i.tokens.audience = base ++ "/api/v2/" ∧
      i.verifier.issuer = base ++ "/" ∧
        i.verifier.keysAddress = trimSlashes (base ++ "/") ++ "/.well-known/jwks.json" ∧
          i.gateway.baseAddress = trimSlashes base := by
  obtain ⟨-, ht, hv, hg⟩ := parts_of_build h
  obtain ⟨hdomain, hid, hsecret⟩ := exists_tokens_iff.1 ⟨_, ht⟩
  rw [TokenSource.build, if_neg hdomain, if_neg hid, if_neg (by simpa using hsecret),
    haudience] at ht
  rw [Verifier.build, hissuer] at hv
  dsimp only at hv
  rw [if_neg hdomain] at hv
  obtain ⟨tokens, verifier⟩ := And.intro (Except.ok.inj ht) (Except.ok.inj hv)
  rw [← tokens, ← verifier, hg]
  exact ⟨rfl, rfl, rfl, rfl, rfl⟩

/-! ### Agreement -/

theorem Addresses.eq (h : i.Addresses base) {base' : String} (h' : i.Addresses base') :
    base' = base :=
  (String.append_left_inj "/").1 (h'.issuer.symm.trans h.issuer)

/-- The addresses of the directory begin with its base. -/
theorem addresses_prefix {g : Gateway} :
    (∀ userId, (g.baseAddress ++ "/api/v2/users").toList <+: (g.userAddress userId).toList) ∧
      ∀ criteria term,
        (g.baseAddress ++ "/api/v2/users").toList <+: (g.searchAddress criteria term).toList := by
  constructor
  · intro userId
    exact ⟨'/' :: (Gateway.escaped userId).toList, by simp [Gateway.userAddress]⟩
  · rintro (- | -) term
    · exact ⟨"-by-email?email=".toList ++ (Gateway.escaped term).toList,
        by simp [Gateway.searchAddress]⟩
    · exact ⟨"?q=identities.user_id:".toList ++ (Gateway.escaped term).toList ++
        "&search_engine=v3".toList, by simp [Gateway.searchAddress]⟩

variable (hissuer : Tenant.unlessBlank settings.verifier.issuer = none)
  (haudience : Tenant.unlessBlank settings.serviceToken.audience = none)

include hissuer haudience

/-- For a domain that is more than slashes the collaborators agree. -/
theorem addresses_baseAddress (h : (build settings).2 = .ok i)
    (hdomain : ¬IsSlashes (Text.trim settings.domain)) :
    i.Addresses (baseAddress settings.domain) := by
  obtain ⟨htoken, haud, hiss, hkeys, hgateway⟩ := addresses_of_build hissuer haudience h
  have hbase : IsBase (baseAddress settings.domain) := Tenant.isBase_baseAddress hdomain
  rw [Tenant.trimSlashes_append_slash hbase.unslashed] at hkeys
  rw [Tenant.trimSlashes_eq_self hbase.unslashed] at hgateway
  obtain ⟨husers, hsearches⟩ := addresses_prefix (g := i.gateway)
  exact
    { users := hgateway ▸ husers, searches := hgateway ▸ hsearches, token := htoken
      audience := haud, issuer := hiss, keys := hkeys }

/-- For a domain of slashes they do not: the issuer leaves no choice of the base, and the directory
is not there. -/
theorem not_addresses_of_isSlashes (h : (build settings).2 = .ok i)
    (hdomain : IsSlashes (Text.trim settings.domain)) : ¬i.Addresses base := by
  intro hbase
  obtain ⟨-, -, hiss, -, hgateway⟩ := addresses_of_build hissuer haudience h
  rw [Tenant.baseAddress_of_slashes hdomain] at hiss hgateway
  obtain rfl : base = "https://" := (String.append_left_inj "/").1 (hbase.issuer.symm.trans hiss)
  have hprefix := hbase.users ""
  rw [Gateway.userAddress, hgateway] at hprefix
  revert hprefix
  decide

/-- **When the collaborators agree.** With neither an issuer nor an audience set, an instance is
built if and only if there are a domain and the credentials of an application. If the domain is more
than slashes, the instance addresses one base, which is a base address; for a domain of slashes it
addresses none. -/
theorem build_addresses :
    ((∃ i, (build settings).2 = .ok i) ↔
      ¬Text.isBlankText settings.domain ∧ ¬Text.isBlankText settings.serviceToken.clientId ∧
        settings.serviceToken.clientSecret ≠ "") ∧
    ∀ i, (build settings).2 = .ok i →
      (¬IsSlashes (Text.trim settings.domain) →
        ∃ base, IsBase base ∧ i.Addresses base ∧ ∀ base', i.Addresses base' → base' = base) ∧
      (IsSlashes (Text.trim settings.domain) → ∀ base, ¬i.Addresses base) := by
  refine ⟨exists_build_iff hissuer, fun i h ↦ ⟨fun hdomain ↦ ?_, fun hdomain base ↦ ?_⟩⟩
  · have haddresses := addresses_baseAddress hissuer haudience h hdomain
    exact ⟨_, Tenant.isBase_baseAddress hdomain, haddresses, fun base' h' ↦ haddresses.eq h'⟩
  · exact not_addresses_of_isSlashes hissuer haudience h hdomain

/-! ### Two domains -/

namespace Sample

omit hissuer haudience

/-- Settings with nothing but what has to be set. -/
def settingsOf (domain : String) : Settings :=
  { domain, serviceToken := { clientId := "app", clientSecret := "secret" } }

/-- A domain with blanks around it and slashes at its end is one tenant. -/
theorem addresses_padded : ∃ i base, (build (settingsOf " http://tenant.test// ")).2 = .ok i ∧
    IsBase base ∧ i.Addresses base := by
  have hdomain : ¬IsSlashes (Text.trim (settingsOf " http://tenant.test// ").domain) := by
    rw [← Tenant.trimSlashes_eq_empty_iff]
    decide
  obtain ⟨hbuilt, hagrees⟩ := @build_addresses (settingsOf " http://tenant.test// ") rfl rfl
  obtain ⟨i, hi⟩ := hbuilt.2 (by decide)
  obtain ⟨base, hbase, haddresses, -⟩ := (hagrees i hi).1 hdomain
  exact ⟨i, base, hi, hbase, haddresses⟩

end Sample

omit hissuer haudience in
/-- **Not every instance that is built is one tenant's.** A single slash is a domain that is
accepted, and the collaborators disagree on it. -/
theorem not_built_for_one_base : ¬∀ settings i, settings.verifier.issuer = none →
    settings.serviceToken.audience = none → (build settings).2 = .ok i →
      ∃ base, IsBase base ∧ i.Addresses base := by
  intro hall
  have hslashes : IsSlashes (Text.trim (Sample.settingsOf "/").domain) := by
    rw [← Tenant.trimSlashes_eq_empty_iff]
    decide
  obtain ⟨i, hi⟩ := (@exists_build_iff (Sample.settingsOf "/") rfl).2 (by decide)
  obtain ⟨base, -, haddresses⟩ := hall _ i rfl rfl hi
  exact not_addresses_of_isSlashes rfl rfl hi hslashes haddresses

end AccountDirectory.Instance
