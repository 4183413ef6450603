import AccountDirectory.Lookup
import AccountDirectory.Proofs.Json.Readers
import AccountDirectory.Token.Header
import Mathlib.Tactic.SplitIfs

/-!
# Headers are objects

A header is read by the shapes of its members, and each of those shapes reads values only
(`memberFits_readsValues`). So whatever is read as a header is a free-form object too
(`Header.exists_object_of_ofDocument?`), whatever other members it has and however deep they nest.

The converse fails: an object without an algorithm is no header.
-/

namespace AccountDirectory.Token

open Json (Document Reader Record Value)

/-! ### The members of a header -/

theorem Algorithm.readsValues : Reader.ReadsValues Algorithm.ofDocument? :=
  Reader.readsValues_name.bind _

/-- A key is read only if all of it has a value, the members without a meaning too. -/
theorem SigningKey.readsValues : Reader.ReadsValues SigningKey.ofDocument? := by
  intro budget d h
  unfold SigningKey.ofDocument? at h
  split at h
  · next hv =>
    rw [hv]
    rfl
  · cases h

/-- **A member that fits has a value.** -/
theorem Header.memberFits_readsValues {budget : Nat} {name : String} {d : Document}
    (h : memberFits budget name d) : (Value.ofDocument? budget d).isSome := by
  -- one case for each shape that the name of a member can ask for
  rw [memberFits] at h
  split_ifs at h
  · exact Algorithm.readsValues budget d h
  · exact SigningKey.readsValues.nullable budget d h
  · exact Reader.readsValues_text.nullable budget d h
  · exact Reader.readsValues_text.list.nullable budget d h
  · exact Reader.readsValues_text budget d h

/-! ### Headers -/

/-- **A header is an object**, and it nests no deeper than a text may. -/
theorem Header.exists_object_of_ofDocument? {d : Document} {header : Header}
    (h : ofDocument? d = some header) :
    ∃ members, Value.ofDocument? Json.nestingLimit d = some (.object members) := by
  cases d with
  | object members =>
    obtain ⟨named, hnamed, hread⟩ := Option.bind_eq_some_iff.1 h
    obtain rfl := Record.named?_eq_some_iff.1 hnamed
    dsimp only at hread
    split at hread
    · next hfits =>
      have hall := List.all_eq_true.1 (Bool.and_eq_true_iff.1 hfits).1
      have hmembers := Value.isSome_ofMembers? fun m hm ↦ memberFits_readsValues (hall m hm)
      obtain ⟨values, hvalues⟩ := Option.isSome_iff_exists.1 hmembers
      refine ⟨Json.objectOf values, ?_⟩
      rw [Value.ofDocument?, if_neg (by decide), hvalues]
      rfl
    · cases hread
  | _ => cases h

end AccountDirectory.Token
