import AccountDirectory.Proofs.Verifier.Acceptance

/-!
# What a configured audience does

A configured audience is compared with the audiences that a token spells. A token that spells none,
because it has no claim `aud` or one that is neither a text nor a list of texts, is accepted all the
same: the claims that a token must have are `exp`, `sub` and `iss` only.

The law here is exact. It falls short of enforcement: a token without audiences passes a verifier
that expects one, and the sample is such a token.
-/

namespace AccountDirectory

open Text.Base64Url (encode)

namespace Verifier

theorem admitsAudience_iff_of_some {v : Verifier} {audience : String}
    (hv : v.audience = some audience) {d : Json.Document} :
    v.AdmitsAudience d ↔ ∀ x audiences, d.member? "aud" = some x → x.Spells audiences →
      audience ∈ audiences := by
  rw [AdmitsAudience, hv]
  constructor
  · exact fun h ↦ h audience rfl
  · rintro h _ ⟨⟩
    exact h

/-- Without a claim about it, no audience is refused. -/
theorem admitsAudience_of_absent (v : Verifier) {d : Json.Document}
    (hd : d.member? "aud" = none) : v.AdmitsAudience d := by
  intro _ _ x _ hx
  rw [hd] at hx
  cases hx

/-- **A verifier with an audience accepts what is supported and does not spell other audiences.** -/
theorem verify_audience_ok_iff {v : Verifier} {audience : String} (hv : v.audience = some audience)
    (w : World) (token scope : String) (claims : Claims) :
    ((v.verify token scope).run.run World.respond w).ending = .finished (.ok claims) ↔
      ∃ e, v.Supports w token scope e ∧
        (∀ x audiences, e.document.member? "aud" = some x → x.Spells audiences →
          audience ∈ audiences) ∧
        claims.subject = e.owner.subject ∧ Claims.IsFirstMentions e.owner.grants claims.scopes := by
  rw [ending_verify_iff]
  refine exists_congr fun e ↦ and_congr_right fun _ ↦ ?_
  exact and_congr_left fun _ ↦ admitsAudience_iff_of_some hv

/-- The sample, which spells no audience, is accepted for any. -/
theorem verify_sample_for_audience :
    (Sample.verifier (some "other")).audience = some "other" ∧
      (((Sample.verifier (some "other")).verify Sample.token "read").run.run World.respond
        Sample.world).ending = .finished (.ok ⟨"ann", ["read", "write"]⟩) := by
  obtain ⟨e, he, howner, haud⟩ := Sample.exists_supports (some "other")
  have hadmits := admitsAudience_of_absent (Sample.verifier (some "other")) haud
  refine ⟨rfl, (verify_audience_ok_iff rfl Sample.world Sample.token "read" _).2 ⟨e, he, ?_, ?_⟩⟩
  · exact hadmits "other" rfl
  · rw [howner]
    exact ⟨rfl, Sample.isFirstMentions_grants⟩

/-- **A configured audience is not enforced**: it is not so that each accepted token names it. -/
theorem not_audience_enforced :
    ¬∀ (v : Verifier) (audience : String), v.audience = some audience →
      ¬Text.isBlankText audience → ∀ w token scope claims,
        ((v.verify token scope).run.run World.respond w).ending = .finished (.ok claims) →
          ∀ heading payload signature d,
            token.toList = encode heading ++ '.' :: (encode payload ++ '.' :: encode signature) →
              Json.Document.ofOctets? payload = some d →
                ∃ x audiences, d.member? "aud" = some x ∧ x.Spells audiences ∧
                  audience ∈ audiences := by
  intro henforced
  obtain ⟨e, he, howner, haud⟩ := Sample.exists_supports (some "other")
  have hadmits := admitsAudience_of_absent (Sample.verifier (some "other")) haud
  have haccepted := yields_verify_iff_supports.2 ⟨e, he, hadmits, rfl, rfl⟩
  obtain ⟨x, _, hx, -⟩ := henforced (Sample.verifier (some "other")) "other" rfl (by decide) _ _ _ _
    haccepted.1 e.heading e.payload e.signature e.document he.spelled he.read
  rw [haud] at hx
  cases hx

end Verifier

end AccountDirectory
