import AccountDirectory.Assembly

/-!
# Building an instance

An instance is built from parts that can each fail to be built, and each keeps the settings that it
was built from. `parts_of_build` takes an instance apart into them, so that what an instance is like
is read off its parts; and `exists_build_iff` says which settings an instance is built from.
-/

namespace AccountDirectory.Instance

variable {i : Instance} {settings : Settings}

/-- **The parts of an instance that is built.** -/
theorem parts_of_build (h : (build settings).2 = .ok i) :
    i.service.domain = settings.domain ∧
      TokenSource.build settings.domain settings.serviceToken = .ok i.tokens ∧
        Verifier.build settings.domain settings.verifier = .ok i.verifier ∧
          i.gateway = Gateway.ofDomain settings.domain := by
  rw [build] at h
  cases ht : TokenSource.build settings.domain settings.serviceToken with
  | error e =>
    rw [ht] at h
    cases h
  | ok tokens =>
    rw [ht] at h
    dsimp only at h
    cases hv : Verifier.build settings.domain settings.verifier with
    | error e =>
      rw [hv] at h
      cases h
    | ok verifier =>
      rw [hv] at h
      obtain rfl := Except.ok.inj h
      exact ⟨rfl, rfl, rfl, rfl⟩

/-- A source of tokens is built from a domain and the credentials of an application. -/
theorem exists_tokens_iff {domain : String} {settings : ServiceTokenSettings} :
    (∃ tokens, TokenSource.build domain settings = .ok tokens) ↔
      ¬Text.isBlankText domain ∧ ¬Text.isBlankText settings.clientId ∧
        settings.clientSecret ≠ "" := by
  rw [TokenSource.build]
  by_cases hdomain : Text.isBlankText domain
  · simp [hdomain]
  by_cases hid : Text.isBlankText settings.clientId
  · simp [hdomain, hid]
  by_cases hsecret : settings.clientSecret = ""
  · simp [hdomain, hid, hsecret]
  · simp [hdomain, hid, hsecret]

/-- An instance has a domain that is not blank. -/
theorem not_isBlankText_domain_of_build (h : (build settings).2 = .ok i) :
    ¬Text.isBlankText i.service.domain := by
  obtain ⟨hservice, ht, -, -⟩ := parts_of_build h
  rw [hservice]
  exact (exists_tokens_iff.1 ⟨_, ht⟩).1

/-- **An instance is built** if there are a domain and the credentials of an application. The issuer
is no other condition where it is made from the domain. -/
theorem exists_build_iff (hissuer : Tenant.unlessBlank settings.verifier.issuer = none) :
    (∃ i, (build settings).2 = .ok i) ↔
      ¬Text.isBlankText settings.domain ∧ ¬Text.isBlankText settings.serviceToken.clientId ∧
        settings.serviceToken.clientSecret ≠ "" := by
  rw [← exists_tokens_iff]
  constructor
  · rintro ⟨i, h⟩
    obtain ⟨-, ht, -, -⟩ := parts_of_build h
    exact ⟨i.tokens, ht⟩
  · rintro ⟨tokens, ht⟩
    have hdomain : ¬Text.isBlankText settings.domain := (exists_tokens_iff.1 ⟨tokens, ht⟩).1
    simp [build, ht, Verifier.build, hissuer, hdomain]

end AccountDirectory.Instance
