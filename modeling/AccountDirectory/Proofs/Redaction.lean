import AccountDirectory.Proofs.Text.Blank
import AccountDirectory.Redaction

/-!
# What masking shows

A masked value shows the **hint** of the value and nothing else: two values look alike if and only
if they have the same hint (`redact_eq_iff`). The hint is two characters at most, and a value of
four characters or fewer has none.

A masked email address shows its domain and the hint of the name before it, and nothing else
(`redactEmail_eq_iff`). A text that is no address is masked as a value
(`redactEmail_of_forall_not`); then its own hint is shown.
-/

namespace AccountDirectory.Redaction

/-! ### Values -/

/-- **The hint of a value**: the first two characters of more than four. -/
def hint (value : String) : Option (List Char) :=
  if 4 < value.length then some (value.toList.take 2) else none

theorem redact_eq (value : String) :
    redact value = (hint value).elim mask fun shown ↦ String.ofList shown ++ mask := by
  have hlimit : 2 * visible = 4 := rfl
  rw [redact, hint, hlimit]
  by_cases h : 4 < value.length
  · rw [if_neg (Nat.not_le.2 h), if_pos h]
    rfl
  · rw [if_pos (Nat.not_lt.1 h), if_neg h]
    rfl

theorem length_eq_of_hint {value : String} {shown : List Char} (h : hint value = some shown) :
    shown.length = 2 := by
  rw [hint] at h
  split at h
  · next hlength =>
    obtain rfl := Option.some.inj h
    rw [List.length_take, String.length_toList]
    omega
  · cases h

/-- What is shown before the mask can be told from the mask alone. -/
theorem mask_ne_append {value : String} {shown : List Char} (h : hint value = some shown) :
    mask ≠ String.ofList shown ++ mask := by
  intro hmask
  have hlist : mask.toList = shown ++ mask.toList := by
    rw [← String.toList_ofList (l := shown), ← String.toList_append, ← hmask]
  have hnil : shown = [] := List.self_eq_append_left.1 hlist
  have hlength := length_eq_of_hint h
  rw [hnil] at hlength
  cases hlength

/-- **Two values look alike if and only if they have the same hint.** -/
theorem redact_eq_iff {a b : String} : redact a = redact b ↔ hint a = hint b := by
  constructor
  · intro h
    rw [redact_eq, redact_eq] at h
    rcases ha : hint a with - | shown
    · rcases hb : hint b with - | shown
      · rfl
      · rw [ha, hb] at h
        exact absurd h (mask_ne_append hb)
    · rcases hb : hint b with - | shown'
      · rw [ha, hb] at h
        exact absurd h.symm (mask_ne_append ha)
      · rw [ha, hb] at h
        have hlist := congrArg String.toList h
        simp only [Option.elim_some, String.toList_append, String.toList_ofList] at hlist
        rw [List.append_cancel_right hlist]
  · intro h
    rw [redact_eq, redact_eq, h]

/-! ### Email addresses -/

variable {separator : Char} {cs before after : List Char}

theorem splitAtLast_eq_none_iff : splitAtLast separator cs = none ↔ separator ∉ cs := by
  induction cs with
  | nil => simp [splitAtLast]
  | cons c rest ih =>
    rw [splitAtLast, List.mem_cons, not_or, ← ih]
    cases splitAtLast separator rest with
    | some cut => simp
    | none =>
      by_cases hc : c = separator
      · simp [hc]
      · simp [hc, Ne.symm hc]

/-- **The cut is at the last separator**: there is none after it. -/
theorem splitAtLast_append_cons (h : separator ∉ after) :
    splitAtLast separator (before ++ separator :: after) = some (before, after) := by
  induction before with
  | nil => rw [List.nil_append, splitAtLast, splitAtLast_eq_none_iff.2 h, if_pos rfl]
  | cons c before ih => rw [List.cons_append, splitAtLast, ih]

theorem exists_append_cons_of_mem (h : separator ∈ cs) :
    ∃ before after, cs = before ++ separator :: after ∧ separator ∉ after := by
  obtain ⟨front, back, hsplit, hfront⟩ := List.eq_append_cons_of_mem (List.mem_reverse.2 h)
  refine ⟨back.reverse, front.reverse, ?_, by rwa [List.mem_reverse]⟩
  rw [← List.reverse_reverse cs, hsplit]
  simp

/-- **The text is an address**: trimmed, it has a name and a domain with the last `@` between
them. -/
structure IsAddress (email : String) (name domain : List Char) : Prop where
  spelt : Text.trimBoth email.toList = name ++ '@' :: domain
  last : '@' ∉ domain
  name_ne_nil : name ≠ []
  domain_ne_nil : domain ≠ []

/-- **Of an address the domain is shown**, and of its name what masking shows. -/
theorem redactEmail_of_isAddress {email : String} {name domain : List Char}
    (h : IsAddress email name domain) :
    redactEmail email = redact (String.ofList name) ++ "@" ++ String.ofList domain := by
  rw [redactEmail, h.spelt, splitAtLast_append_cons h.last]
  dsimp only
  rw [if_neg]
  simp [h.name_ne_nil, h.domain_ne_nil]

example : redactEmail " robin@example.org" = "ro***@example.org" := by decide +kernel

/-- **Two addresses look alike if and only if** they have the same domain, and names with the same
hint. -/
theorem redactEmail_eq_iff {email email' : String} {name name' domain domain' : List Char}
    (h : IsAddress email name domain) (h' : IsAddress email' name' domain') :
    redactEmail email = redactEmail email' ↔
      hint (String.ofList name) = hint (String.ofList name') ∧ domain = domain' := by
  rw [redactEmail_of_isAddress h, redactEmail_of_isAddress h', ← redact_eq_iff]
  constructor
  · intro heq
    -- what is shown is cut at its last separator
    have hcut (shown : String) {back : List Char} (hback : '@' ∉ back) :
        splitAtLast '@' (shown ++ "@" ++ String.ofList back).toList =
          some (shown.toList, back) := by
      rw [String.append_assoc, String.toList_append, String.toList_append,
        String.toList_ofList (l := back)]
      exact splitAtLast_append_cons hback
    have hparts := (hcut _ h.last).symm.trans ((congrArg _ (congrArg _ heq)).trans (hcut _ h'.last))
    obtain ⟨hname, hdomain⟩ := Prod.mk.inj (Option.some.inj hparts)
    exact ⟨String.toList_inj.1 hname, hdomain⟩
  · rintro ⟨hname, rfl⟩
    rw [hname]

/-- **Of any other text only that is shown which is shown of a value.** -/
theorem redactEmail_of_forall_not {email : String}
    (h : ∀ name domain, ¬IsAddress email name domain) : redactEmail email = redact email := by
  rw [redactEmail]
  by_cases hmem : '@' ∈ Text.trimBoth email.toList
  · -- there is a last separator, so one of the parts has to be empty
    obtain ⟨name, domain, hspelt, hlast⟩ := exists_append_cons_of_mem hmem
    rw [hspelt, splitAtLast_append_cons hlast]
    dsimp only
    rw [if_pos]
    by_contra hparts
    rw [Bool.not_eq_true, Bool.or_eq_false_iff] at hparts
    exact h name domain ⟨hspelt, hlast, by simpa using hparts.1, by simpa using hparts.2⟩
  · rw [splitAtLast_eq_none_iff.2 hmem]

end AccountDirectory.Redaction
