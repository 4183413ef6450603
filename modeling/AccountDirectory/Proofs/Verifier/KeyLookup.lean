import AccountDirectory.Proofs.World
import AccountDirectory.Verifier

/-!
# Where a verification finds its key

A lookup looks at the kept key set, may fetch the set, and looks again. `Decides` describes the
worlds in which a successful lookup ends: either the first look has found the key, or it has not, the
set was not quiet, and the server published the set that is kept now.

Which key a set gives is told by the order of its keys (`Token.KeySet.Gives`), and how long it is
used by its age (`isCurrent_iff`).

**Why there are only two.** When a set is quiet, nothing is fetched and the second look is at the
same set, later. What the first look did not find there, the second does not find either
(`keyIn_look_of_quiet`); so a lookup that ends with a key after the first look has fetched.
-/

namespace AccountDirectory

namespace Token.KeySet

/-- **The key that a set gives**: the first one with the id, or the first of all without an id. -/
inductive Gives (set : KeySet) : Option String → SigningKey → Prop
  | named {id : String} {key : SigningKey} {before after : List SigningKey}
    (hset : set.keys = before ++ key :: after) (hid : key.id = some id)
    (hbefore : ∀ other ∈ before, other.id ≠ some id) : Gives set (some id) key
  | first {key : SigningKey} {others : List SigningKey} (hset : set.keys = key :: others) :
    Gives set none key

theorem find?_eq_some_iff {set : KeySet} {keyId : Option String} {key : SigningKey} :
    set.find? keyId = some key ↔ set.Gives keyId key := by
  cases keyId with
  | none =>
    rw [find?, List.head?_eq_some_iff]
    constructor
    · rintro ⟨others, hset⟩
      exact .first hset
    · intro h
      cases h with
      | first hset => exact ⟨_, hset⟩
  | some id =>
    rw [find?, List.find?_eq_some_iff_append]
    simp only [beq_iff_eq, Bool.not_eq_true', beq_eq_false_iff_ne]
    constructor
    · rintro ⟨hid, before, after, hset, hbefore⟩
      exact .named hset hid hbefore
    · intro h
      cases h with
      | named hset hid hbefore => exact ⟨hid, _, _, hset, hbefore⟩

end Token.KeySet

namespace World

/-- The world after a look at the kept key set: its age is asked for, if there is a set. -/
def look (w : World) : World :=
  match w.keys with
  | none => w
  | some _ => w.tick

/-- The world in which a key set was stored just now. -/
def store (w : World) (set : Token.KeySet) : World :=
  { w.tick with keys := some ⟨set, w.tick.clock⟩ }

variable {w : World}

theorem look_of_none (h : w.keys = none) : w.look = w := by rw [look, h]

theorem look_of_some {entry : CachedKeys} (h : w.keys = some entry) : w.look = w.tick := by
  rw [look, h]

theorem keys_look : w.look.keys = w.keys := by
  cases h : w.keys with
  | none => rw [look_of_none h, h]
  | some entry =>
    rw [look_of_some h]
    exact h

theorem server_look : w.look.server = w.server := by
  rw [look]
  split <;> rfl

theorem calendar_look : w.look.calendar = w.calendar := by
  rw [look]
  split <;> rfl

theorem clock_le_look : w.clock ≤ w.look.clock := by
  rw [look]
  split
  · exact Nat.le_refl _
  · exact w.clock_le_tick

end World

namespace Verifier

open World (respond Yields yields_bind_iff yields_pure_iff yields_lift_iff not_yields_throw
  yields_log_bind_iff ends_call_iff)

variable (v : Verifier)

/-- The key for a header in the kept set, as long as the set is used. -/
def keyIn (w : World) (keyId : Option String) : Option Token.SigningKey :=
  w.keys.bind fun entry ↦ if v.isCurrent entry w.clock then entry.keys.find? keyId else none

/-- There is a kept set, too young to be fetched again. -/
def isQuiet (w : World) : Bool := w.keys.elim false fun entry ↦ v.isYoung entry w.clock

/-- The server publishes this set under the issuer's address. -/
def Publishes (w : World) (set : Token.KeySet) : Prop :=
  ∃ request response, Http.Request.build .get v.keysAddress none none = .ok request ∧
    w.server request = .answer (.ok response) ∧ Http.isSuccess response.status ∧
      Token.KeySet.ofOctets? response.body = some set

/-- **The world in which a lookup ends** that has found a key. -/
inductive Decides (keyId : Option String) (w : World) : World → Prop
  /-- The first look has found it. -/
  | kept (h : (v.keyIn w.look keyId).isSome) : Decides keyId w w.look
  /-- It has not, and the set was fetched. -/
  | fetched {set : Token.KeySet} (hk : v.keyIn w.look keyId = none)
    (hq : v.isQuiet w.look.look = false) (hp : v.Publishes w set) :
    Decides keyId w (w.look.look.store set).look

theorem keyIn_eq_some_iff {w : World} {keyId : Option String} {key : Token.SigningKey} :
    v.keyIn w keyId = some key ↔
      ∃ entry, w.keys = some entry ∧ v.isCurrent entry w.clock ∧
        entry.keys.find? keyId = some key := by
  rw [keyIn, Option.bind_eq_some_iff]
  refine exists_congr fun entry ↦ and_congr_right fun _ ↦ ?_
  by_cases h : v.isCurrent entry w.clock
  · rw [if_pos h, and_iff_right h]
  · rw [if_neg h]
    constructor
    · intro hn
      cases hn
    · exact fun hc ↦ absurd hc.1 h

/-- A set is in use for its lifetime, in seconds. -/
theorem isCurrent_iff {entry : CachedKeys} {now : Nat} :
    v.isCurrent entry now ↔ now ≤ entry.fetchedAt + 1000 * v.keySetLifetime := by
  rw [isCurrent, decide_eq_true_iff, Nat.sub_le_iff_le_add']

/-- The key for a header is given by the kept set, within its lifetime. -/
theorem keyIn_eq_some_iff_gives {w : World} {keyId : Option String} {key : Token.SigningKey} :
    v.keyIn w keyId = some key ↔
      ∃ entry, w.keys = some entry ∧ w.clock ≤ entry.fetchedAt + 1000 * v.keySetLifetime ∧
        entry.keys.Gives keyId key := by
  simp only [keyIn_eq_some_iff, isCurrent_iff, Token.KeySet.find?_eq_some_iff]

/-- What is in use later was in use before. -/
theorem isCurrent_of_le {entry : CachedKeys} {now later : Nat} (hle : now ≤ later)
    (h : v.isCurrent entry later) : v.isCurrent entry now := by
  rw [isCurrent_iff] at h ⊢
  exact Nat.le_trans hle h

/-- **A second look at a quiet set finds nothing new.** -/
theorem keyIn_look_of_quiet {w : World} {keyId : Option String} (hk : v.keyIn w keyId = none)
    (hq : v.isQuiet w.look) : v.keyIn w.look.look keyId = none := by
  rw [isQuiet, World.keys_look] at hq
  cases hw : w.keys with
  | none =>
    rw [hw] at hq
    cases hq
  | some entry =>
    rw [hw, Option.elim_some, isYoung, Bool.and_eq_true] at hq
    -- the set is in use later, so it was in use at the first look, which did not find the key in it
    have hnow : v.isCurrent entry w.clock := v.isCurrent_of_le World.clock_le_look hq.2
    have hnone : entry.keys.find? keyId = none := by
      rw [keyIn, hw] at hk
      exact (if_pos hnow).symm.trans hk
    rw [keyIn, World.keys_look, World.keys_look, hw]
    show (if _ then _ else _) = _
    rw [hnone, ite_self]

/-! ### The steps of a lookup -/

variable {v} {w w' : World} {keyId : Option String}

theorem ends_keptKey : Program.Ends respond (v.keptKey keyId) w (v.keyIn w.look keyId) w.look := by
  obtain ⟨_, _, _, _, - | entry, _⟩ := w
  · exact ⟨rfl, rfl⟩
  · exact ⟨rfl, rfl⟩

theorem ends_recentlyFetched :
    Program.Ends respond v.recentlyFetched w (v.isQuiet w.look) w.look := by
  obtain ⟨_, _, _, _, - | entry, _⟩ := w
  · exact ⟨rfl, rfl⟩
  · exact ⟨rfl, rfl⟩

/-- A fetch that does not fail has stored the published set. -/
theorem yields_fetchKeys_iff {u : Unit} :
    Yields v.fetchKeys w u w' ↔ ∃ set, v.Publishes w set ∧ w' = w.store set := by
  rw [fetchKeys, yields_log_bind_iff, Procedure.exchange]
  cases hb : Http.Request.build .get v.keysAddress none none with
  | error failure =>
    constructor
    · intro h
      exact nomatch h.1
    · rintro ⟨set, ⟨_, _, h, -⟩, -⟩
      cases hb.symm.trans h
  | ok request =>
    rw [yields_bind_iff]
    constructor
    · rintro ⟨answer, _, hx, hf⟩
      obtain ⟨h, rfl⟩ := Prod.mk.inj (ends_call_iff.1 (yields_lift_iff.1 hx))
      cases answer with
      | error failure => exact absurd hf not_yields_throw
      | ok response =>
        dsimp only at hf
        split at hf
        · next hs =>
          split at hf
          · next set hset =>
            obtain ⟨now, _, hc, hf⟩ := yields_bind_iff.1 hf
            obtain ⟨hn, rfl⟩ := Prod.mk.inj (ends_call_iff.1 (yields_lift_iff.1 hc))
            obtain rfl := Program.Reply.answer.inj hn
            obtain ⟨-, rfl⟩ := Prod.mk.inj (ends_call_iff.1 (yields_lift_iff.1 hf))
            exact ⟨set, ⟨request, response, hb, h, hs, hset⟩, rfl⟩
          · exact absurd hf not_yields_throw
        · exact absurd hf not_yields_throw
    · rintro ⟨set, ⟨request', response, hr, h, hs, hset⟩, rfl⟩
      obtain rfl := Except.ok.inj (hb.symm.trans hr)
      refine ⟨.ok response, w, yields_lift_iff.2 (ends_call_iff.2 (Prod.ext h rfl)), ?_⟩
      dsimp only
      rw [if_pos hs, hset]
      exact yields_bind_iff.2 ⟨_, _, yields_lift_iff.2 (ends_call_iff.2 rfl),
        yields_lift_iff.2 (ends_call_iff.2 rfl)⟩

/-- The last look of a lookup. -/
theorem yields_lastLook_iff {key : Token.SigningKey} :
    Yields (do
      match ← ExceptT.lift (v.keptKey keyId) with
      | some key => pure key
      | none => throw (missingKey keyId) : Step Token.SigningKey) w key w' ↔
      v.keyIn w.look keyId = some key ∧ w' = w.look := by
  rw [yields_bind_iff]
  simp only [yields_lift_iff, ends_keptKey.iff]
  constructor
  · rintro ⟨_, _, ⟨rfl, rfl⟩, h⟩
    split at h
    · next found hk =>
      obtain ⟨rfl, rfl⟩ := yields_pure_iff.1 h
      exact ⟨hk, rfl⟩
    · exact absurd h not_yields_throw
  · rintro ⟨hk, rfl⟩
    refine ⟨_, _, ⟨rfl, rfl⟩, ?_⟩
    rw [hk]
    exact yields_pure_iff.2 ⟨rfl, rfl⟩

/-- **A lookup yields the key of the deciding world.** -/
theorem yields_signingKey_iff {key : Token.SigningKey} :
    Yields (v.signingKey keyId) w key w' ↔
      v.Decides keyId w w' ∧ v.keyIn w' keyId = some key := by
  rw [signingKey, yields_bind_iff]
  simp only [yields_lift_iff, ends_keptKey.iff]
  constructor
  · rintro ⟨_, _, ⟨rfl, rfl⟩, h⟩
    cases hk : v.keyIn w.look keyId with
    | some first =>
      rw [hk] at h
      obtain ⟨rfl, rfl⟩ := yields_pure_iff.1 h
      exact ⟨.kept (by rw [hk]; rfl), hk⟩
    | none =>
      rw [hk] at h
      simp only [yields_bind_iff, yields_lift_iff, ends_recentlyFetched.iff] at h
      obtain ⟨_, _, ⟨rfl, rfl⟩, h⟩ := h
      cases hq : v.isQuiet w.look.look with
      | true =>
        -- nothing is fetched, and a quiet set gives at the last look what it gave at the first
        rw [hq, if_pos rfl] at h
        have hsome := (yields_lastLook_iff.1 h).1
        rw [v.keyIn_look_of_quiet hk hq] at hsome
        cases hsome
      | false =>
        rw [hq, if_neg Bool.false_ne_true] at h
        obtain ⟨_, _, hf, h⟩ := yields_bind_iff.1 h
        obtain ⟨set, hp, rfl⟩ := yields_fetchKeys_iff.1 hf
        obtain ⟨hkey, rfl⟩ := yields_lastLook_iff.1 h
        -- no look changes what the server publishes
        have hp : v.Publishes w set := by
          rwa [Publishes, World.server_look, World.server_look] at hp
        exact ⟨.fetched hk hq hp, hkey⟩
  · rintro ⟨hd, hkey⟩
    refine ⟨_, _, ⟨rfl, rfl⟩, ?_⟩
    cases hd with
    | kept =>
      rw [hkey]
      exact yields_pure_iff.2 ⟨rfl, rfl⟩
    | @fetched set hk hq hp =>
      rw [hk]
      simp only [yields_bind_iff, yields_lift_iff, ends_recentlyFetched.iff]
      refine ⟨_, _, ⟨rfl, rfl⟩, ?_⟩
      rw [hq, if_neg Bool.false_ne_true]
      have hp : v.Publishes w.look.look set := by
        rwa [Publishes, World.server_look, World.server_look]
      exact yields_bind_iff.2
        ⟨(), _, yields_fetchKeys_iff.2 ⟨_, hp, rfl⟩, yields_lastLook_iff.2 ⟨hkey, rfl⟩⟩

end Verifier

end AccountDirectory
