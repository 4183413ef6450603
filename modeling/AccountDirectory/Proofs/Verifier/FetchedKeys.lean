import AccountDirectory.Proofs.Interleaving.History
import AccountDirectory.Proofs.Verifier.Looks

/-!
# What becomes of a fetched key set

A lookup that fetches the key set does not use what it has fetched: it stores the set and then looks
at what is kept, as every lookup does. So what it returns depends on two things that are not its
own.

* **What is kept then** is the fetched set, unless another call has stored one in between.
* **The clock** is read once more, so the set may be too old by then; with a lifetime of zero, it is
  as soon as any time has passed since it was stored.

`signingKey_of_stored` says that nothing else matters, for any calls at the same time: the outcome
of the lookup is that of one look at the set that is kept, and that is the key of the fetched set if
neither has happened. Without that condition it need not be (`not_signingKey_finds_stored`).
-/

namespace AccountDirectory

open Program (Conducts conducts_done_iff)
open Interleaving (State Move Event Act own lastKeys Remembers)

/-! ### The set that was stored last -/

/-- What was stored last was stored since, or is the set itself. -/
theorem Interleaving.lastKeys_append_cons {later earlier : List Event} {store : Event}
    {entry : CachedKeys} (h : store.act.storedKeys? = some entry) :
    lastKeys (later ++ store :: earlier) = some ((lastKeys later).getD entry) := by
  rw [lastKeys, List.findSome?_append, List.findSome?_cons, h, lastKeys]
  cases later.findSome? (·.act.storedKeys?) <;> rfl

namespace Verifier

variable {v : Verifier} {keyId : Option String} {d : List Procedure.Exchange}
  {outcome : Except TokenError Token.SigningKey}

/-! ### The dialogue of a lookup that stores a set -/

/-- **What a look gives** that reads a set at a time. -/
def lookedUp (v : Verifier) (keyId : Option String) (entry : CachedKeys) (now : Nat) :
    Except TokenError Token.SigningKey :=
  match if v.isCurrent entry now then entry.keys.find? keyId else none with
  | some key => .ok key
  | none => .error (missingKey keyId)

theorem lookedUp_eq_ok_iff {entry : CachedKeys} {now : Nat} {key : Token.SigningKey} :
    v.lookedUp keyId entry now = .ok key ↔
      v.isCurrent entry now ∧ entry.keys.find? keyId = some key := by
  rw [lookedUp]
  split_ifs with hcurrent
  · rw [and_iff_right hcurrent]
    cases entry.keys.find? keyId <;> simp
  · exact iff_of_false nofun fun h ↦ hcurrent h.1

/-- The last look reads what is kept and, if there is something, the clock. -/
theorem conducts_lastLook_finished (h : Conducts (v.lastLook keyId).run d (.finished outcome)) :
    d = [⟨.cachedKeys, .answer none⟩] ∨
      ∃ entry now, d = [⟨.cachedKeys, .answer (some entry)⟩, ⟨.steadyClock, .answer now⟩] ∧
        outcome = v.lookedUp keyId entry now := by
  rw [lastLook, ExceptT.run_bind_lift] at h
  obtain ⟨found, d₁, d₂, rfl, hlook, hrest⟩ := Program.conducts_bind_finished_iff.1 h
  have hend : d₂ = [] ∧ outcome = found.elim (.error (missingKey keyId)) .ok := by
    rcases found with - | key
    · exact (conducts_done_iff.1 hrest).imp id Program.Ending.finished.inj
    · exact (conducts_done_iff.1 hrest).imp id Program.Ending.finished.inj
  obtain ⟨rfl, rfl⟩ := hend
  rw [List.append_nil]
  obtain ⟨rfl, -⟩ | ⟨entry, now, rfl, rfl⟩ := conducts_look_finished hlook
  · exact .inl rfl
  · refine .inr ⟨entry, now, rfl, ?_⟩
    rw [lookedUp]
    cases if v.isCurrent entry now then entry.keys.find? keyId else none <;> rfl

/-- A fetch fails before it stores anything, or ends with storing what it has received. -/
theorem conducts_fetchKeys_finished {result : Except TokenError Unit}
    (h : Conducts v.fetchKeys.run d (.finished result)) :
    (∀ x ∈ d, ∀ entry, x.op ≠ .storeKeys entry) ∨
      ∃ request answer entry, d = [⟨.exchange request, .answer answer⟩,
          ⟨.steadyClock, .answer entry.fetchedAt⟩, ⟨.storeKeys entry, .answer ()⟩] ∧
        published? answer = some entry.keys ∧ result = .ok () := by
  rw [fetchKeys, ExceptT.run_bind_lift] at h
  have hsend := Program.conducts_note_iff.1 h
  rw [Program.bind, ExceptT.run_bind_lift, Procedure.exchange] at hsend
  rcases hb : Http.Request.build .get v.keysAddress none none with failure | request
  · rw [hb] at hsend
    obtain ⟨rfl, -⟩ := conducts_done_iff.1 hsend
    exact .inl fun x hx ↦ absurd hx List.not_mem_nil
  rw [hb] at hsend
  obtain ⟨answer, d₁, d₂, rfl, hcall, hrest⟩ := Program.conducts_bind_finished_iff.1 hsend
  obtain rfl := Procedure.conducts_call_finished_iff.1 hcall
  -- an answer without a key set leaves nothing to do
  have hsilent : d₂ = [] → ∀ x ∈ [⟨.exchange request, .answer answer⟩] ++ d₂,
      ∀ entry, x.op ≠ .storeKeys entry := by
    rintro rfl
    simp
  rcases answer with failure | response
  · exact .inl (hsilent (conducts_done_iff.1 hrest).1)
  dsimp only at hrest
  split at hrest
  · next hs =>
    split at hrest
    · next keys hkeys =>
      rw [ExceptT.run_bind_lift] at hrest
      obtain ⟨now, d₂, d₃, rfl, hclock, hstore⟩ := Program.conducts_bind_finished_iff.1 hrest
      obtain rfl := Procedure.conducts_call_finished_iff.1 hclock
      obtain ⟨⟨⟩, d₃, d₄, rfl, hstored, hend⟩ := Program.conducts_bind_finished_iff.1 hstore
      obtain rfl := Procedure.conducts_call_finished_iff.1 hstored
      obtain ⟨rfl, hresult⟩ := conducts_done_iff.1 hend
      exact .inr ⟨request, .ok response, ⟨keys, now⟩, rfl, (if_pos hs).trans hkeys,
        Program.Ending.finished.inj hresult⟩
    · exact .inl (hsilent (conducts_done_iff.1 hrest).1)
  · exact .inl (hsilent (conducts_done_iff.1 hrest).1)

/-- Before a lookup fetches the set it stores nothing, -/
theorem not_mem_of_obeys {α : Type} {p : Procedure α} {post : α → Prop} {e : Program.Ending α}
    {entry : CachedKeys} (h : Conducts p d e)
    (hp : p.Obeys (· ≠ .storeKeys entry) post) : ⟨.storeKeys entry, .answer ()⟩ ∉ d :=
  fun hmem ↦ (h.obeys hp).1 _ hmem rfl

/-- and after that neither. -/
theorem not_mem_of_lastLook {entry : CachedKeys}
    (h : Conducts (v.lastLook keyId).run d (.finished outcome)) :
    ⟨.storeKeys entry, .answer ()⟩ ∉ d := by
  rcases conducts_lastLook_finished h with rfl | ⟨entry', now, rfl, -⟩ <;> simp

/-- **A lookup that stores a set looks at what is kept then.** -/
theorem conducts_signingKey_of_stored {entry : CachedKeys}
    (h : Conducts (v.signingKey keyId).run d (.finished outcome))
    (hstored : ⟨.storeKeys entry, .answer ()⟩ ∈ d) :
    ∃ before request answer last, d = before ++ [⟨.exchange request, .answer answer⟩,
        ⟨.steadyClock, .answer entry.fetchedAt⟩, ⟨.storeKeys entry, .answer ()⟩] ++ last ∧
      published? answer = some entry.keys ∧
        Conducts (v.lastLook keyId).run last (.finished outcome) := by
  rw [signingKey_eq, ExceptT.run_bind_lift] at h
  obtain ⟨found, d₁, d₂, rfl, hfirst, hrest⟩ := Program.conducts_bind_finished_iff.1 h
  have hsecond := (List.mem_append.1 hstored).resolve_left
    (not_mem_of_obeys hfirst (v.keptKey_obeys nofun nofun keyId))
  rcases found with - | key
  · rw [Option.elim_none, ExceptT.run_bind_lift] at hrest
    obtain ⟨recently, d₂, d₃, rfl, hrecent, hrest⟩ := Program.conducts_bind_finished_iff.1 hrest
    have hthird := (List.mem_append.1 hsecond).resolve_left
      (not_mem_of_obeys hrecent (v.recentlyFetched_obeys nofun nofun))
    rcases recently with - | -
    · rcases Program.conducts_bindT_iff.1 hrest with
        ⟨_, -, hs⟩ | ⟨failure, hfetch, -⟩ | ⟨_, d₃, d₄, rfl, hfetch, hlast⟩
      · cases hs
      · rcases conducts_fetchKeys_finished hfetch with hnone | ⟨_, _, _, -, -, hok⟩
        · exact absurd rfl (hnone _ hthird entry)
        · cases hok
      · have hfetched := (List.mem_append.1 hthird).resolve_right (not_mem_of_lastLook hlast)
        rcases conducts_fetchKeys_finished hfetch with
          hnone | ⟨request, answer, entry', rfl, hpublished, -⟩
        · exact absurd rfl (hnone _ hfetched entry)
        · obtain rfl : entry = entry' := by simpa using hfetched
          exact ⟨d₁ ++ d₂, request, answer, d₄, by simp, hpublished, hlast⟩
    · exact absurd hthird (not_mem_of_lastLook hrest)
  · obtain ⟨rfl, -⟩ := conducts_done_iff.1 hrest
    exact absurd hsecond List.not_mem_nil

/-! ### The lookup among other calls -/

/-- **A look after a store** finds what was stored last, which is the set itself unless another one
was stored in between. -/
theorem exists_look_of_own {α : Type} {s : State α} (hr : Remembers s) {i : Nat}
    {before rest : List Procedure.Exchange} {entry : CachedKeys} {kept : Option CachedKeys}
    (hown : own i s.history = (before ++ [⟨.steadyClock, .answer entry.fetchedAt⟩] ++
      [⟨.storeKeys entry, .answer ()⟩]) ++ ⟨.cachedKeys, .answer kept⟩ :: rest) :
    ∃ (later : List Event) (look : Event) (between : List Event) (store : Event)
      (earlier : List Event), s.history = later ++ look :: (between ++ store :: earlier) ∧
        store.caller = i ∧ store.act = .did (.storeKeys entry) () ∧
          look.caller = i ∧ look.act = .did .cachedKeys kept ∧
            kept = some ((lastKeys between).getD entry) ∧ entry.fetchedAt ≤ look.time ∧
              own i later = rest := by
  obtain ⟨later, look, middle, hs, hi, hx, hmiddle, hlater⟩ :=
    Interleaving.exists_of_own_eq_append_cons hown
  obtain ⟨between, store, earlier, rfl, hstorer, hstored, hearlier⟩ :=
    Interleaving.exists_of_own_eq_concat hmiddle
  have hlook : look.act = .did .cachedKeys kept := Act.eq_did_of_exchange? hx fun _ h ↦ by cases h
  have hstore : store.act = .did (.storeKeys entry) () :=
    Act.eq_did_of_exchange? hstored fun _ h ↦ by cases h
  have hkept : kept = lastKeys (between ++ store :: earlier) := by
    have hfits := hr.fits _ _ _ hs
    rwa [Event.Fits, hlook] at hfits
  rw [Interleaving.lastKeys_append_cons (by rw [hstore]; rfl)] at hkept
  -- the time that the set bears was read before it was stored
  have hclock : ⟨.steadyClock, .answer entry.fetchedAt⟩ ∈ own i (between ++ store :: earlier) := by
    rw [Interleaving.own_append, Interleaving.own_cons, hearlier]
    simp
  have htime : entry.fetchedAt ≤ look.time := hr.le_time_of_own hs hclock
  exact ⟨later, look, between, store, earlier, hs, hstorer, hstore, hi, hlook, hkept, htime, hlater⟩

/-- **A lookup that has stored a key set**, among any other calls: its outcome is that of one look
at the set that is kept, which is the stored one unless another was stored in between; and if that
did not happen, and the time of the set is not over, then the lookup returns its key. -/
theorem signingKey_of_stored {α : Type} (v : Verifier) (calls : Nat → Procedure α)
    (moves : List Move) (i : Nat) (keyId : Option String) {d rest : List Procedure.Exchange}
    {outcome : Except TokenError Token.SigningKey} {entry : CachedKeys}
    (hown : own i (State.run calls moves).history = d ++ rest)
    (hreturned : Conducts (v.signingKey keyId).run d (.finished outcome))
    (hstored : ⟨.storeKeys entry, .answer ()⟩ ∈ d) :
    ∃ (later : List Event) (look : Event) (between : List Event) (store : Event)
      (earlier : List Event) (now : Nat),
      (State.run calls moves).history = later ++ look :: (between ++ store :: earlier) ∧
        store.caller = i ∧ store.act = .did (.storeKeys entry) () ∧
          look.caller = i ∧
            look.act = .did .cachedKeys (some ((lastKeys between).getD entry)) ∧
        (∃ time, ⟨time, i, .did .steadyClock now⟩ ∈ later) ∧ entry.fetchedAt ≤ now ∧
          outcome = v.lookedUp keyId ((lastKeys between).getD entry) now ∧
            ∀ key, entry.keys.find? keyId = some key → lastKeys between = none →
              now ≤ entry.fetchedAt + 1000 * v.keySetLifetime → outcome = .ok key := by
  have hr := Interleaving.remembers_run calls moves
  obtain ⟨before, request, answer, last, rfl, -, hlast⟩ :=
    conducts_signingKey_of_stored hreturned hstored
  obtain ⟨kept, last', rfl⟩ : ∃ kept last', last = ⟨.cachedKeys, .answer kept⟩ :: last' := by
    rcases conducts_lastLook_finished hlast with rfl | ⟨_, _, rfl, -⟩ <;> exact ⟨_, _, rfl⟩
  have hasked : own i (State.run calls moves).history =
      ((before ++ [⟨.exchange request, .answer answer⟩]) ++
        [⟨.steadyClock, .answer entry.fetchedAt⟩] ++ [⟨.storeKeys entry, .answer ()⟩]) ++
          ⟨.cachedKeys, .answer kept⟩ :: (last' ++ rest) := by
    simpa using hown
  obtain ⟨later, look, between, store, earlier, hs, hstorer, hstore, hi, hlook, rfl, htime,
      hlater⟩ := exists_look_of_own hr hasked
  obtain hnone | ⟨entry', now, hsome, rfl⟩ := conducts_lastLook_finished hlast
  · cases hnone
  cases hsome
  have hread : ⟨.steadyClock, .answer now⟩ ∈ own i later := by
    rw [hlater]
    exact List.mem_cons_self
  obtain ⟨⟨time, caller, act⟩, hmem, rfl, hreadx⟩ := Interleaving.mem_own_iff.1 hread
  obtain rfl : act = .did .steadyClock now :=
    Act.eq_did_of_exchange? hreadx fun _ h ↦ by cases h
  -- the clock is read after the look, which is no earlier than the time of the set
  have hnow : entry.fetchedAt ≤ now := by
    have hin : ⟨time, caller, .did .steadyClock now⟩ ∈ (State.run calls moves).history := by
      rw [hs]
      exact List.mem_append_left _ hmem
    rw [hr.eq_time_of_read hin rfl]
    exact htime.trans (hr.time_le_of_mem hs hmem List.mem_cons_self)
  refine ⟨later, look, between, store, earlier, now, hs, hstorer, hstore, hi, hlook, ⟨time, hmem⟩,
    hnow, rfl, fun key hkey halone hgood ↦ lookedUp_eq_ok_iff.2 ?_⟩
  rw [halone, Option.getD_none]
  refine ⟨decide_eq_true ?_, hkey⟩
  omega

namespace Sample

/-- A verifier that uses a key set for so many seconds. -/
def keeping (lifetime : Nat) : Verifier :=
  ⟨"https://home/", "https://home/.well-known/jwks.json", none, 0, lifetime⟩

/-- The key `a`. -/
def octetKey : Token.SigningKey := ⟨some "a", .octets "AA"⟩

/-- What the issuer answers: a key set with the key `a`. -/
def keySet : Http.Response :=
  ⟨200, "\x7b\"keys\":[\x7b\"kid\":\"a\",\"kty\":\"oct\",\"k\":\"AA\"\x7d]\x7d".toUTF8.toList⟩

/-- One call finds nothing, fetches the set, stores it, and looks a while later. -/
def fetching (duration : Nat) : List Move :=
  [.act 0 0, .act 0 0, .act 0 0, .receive 0 (.ok keySet), .act 0 0, .act 0 0, .pass duration,
    .act 0 0, .act 0 0]

/-- The state after that. -/
def fetched (lifetime duration : Nat) : State (Except TokenError Token.SigningKey) :=
  State.run (fun _ ↦ ((keeping lifetime).signingKey (some "a")).run) (fetching duration)

/-- The result of a call that has finished. -/
def result? : Interleaving.Standing (Except TokenError Token.SigningKey) →
    Option (Except TokenError Token.SigningKey)
  | .running (.done outcome) => some outcome
  | _ => none

theorem eq_of_result? {standing : Interleaving.Standing (Except TokenError Token.SigningKey)}
    (h : result? standing = some outcome) : standing = .running (.done outcome) := by
  cases standing with
  | running rest =>
    cases rest with
    | done outcome' =>
      obtain rfl := Option.some.inj h
      rfl
    | note | ask => exact absurd h (by simp [result?])
  | waiting | dropped => exact absurd h (by simp [result?])

/-- What the call has done, if it has come to an outcome and stored the set. -/
theorem conducts_of_fetched {lifetime duration : Nat} {entry : CachedKeys}
    (hresult : result? ((fetched lifetime duration).calls 0) = some outcome)
    (hstored : ∃ e ∈ (fetched lifetime duration).history,
      e.caller = 0 ∧ e.act.storedKeys? = some entry) :
    Conducts ((keeping lifetime).signingKey (some "a")).run
        (own 0 (fetched lifetime duration).history) (.finished outcome) ∧
      ⟨.storeKeys entry, .answer ()⟩ ∈ own 0 (fetched lifetime duration).history := by
  obtain ⟨e, he, hcaller, hkeys⟩ := hstored
  exact ⟨(Interleaving.traced_run _ (fetching duration)).conducts (eq_of_result? hresult),
    Interleaving.mem_own_iff.2 ⟨e, he, hcaller, Interleaving.exchange?_of_storedKeys? hkeys⟩⟩

/-- While the time of the set is not over, the call finds its key. -/
theorem signingKey_in_time :
    ∃ d, own 0 (fetched 1 1000).history = d ++ [] ∧
      Conducts ((keeping 1).signingKey (some "a")).run d (.finished (.ok octetKey)) ∧
        ⟨.storeKeys ⟨⟨[octetKey]⟩, 0⟩, .answer ()⟩ ∈ d ∧
          ∃ between now, .ok octetKey =
            (keeping 1).lookedUp (some "a") ((lastKeys between).getD ⟨⟨[octetKey]⟩, 0⟩) now := by
  have hresult : result? ((fetched 1 1000).calls 0) = some (.ok octetKey) := by decide +kernel
  have hkept : ∃ e ∈ (fetched 1 1000).history, e.caller = 0 ∧
      e.act.storedKeys? = some ⟨⟨[octetKey]⟩, 0⟩ := by decide +kernel
  obtain ⟨hreturned, hstored⟩ := conducts_of_fetched hresult hkept
  obtain ⟨-, -, between, -, -, now, -, -, -, -, -, -, -, houtcome, -⟩ :=
    signingKey_of_stored (keeping 1) _ (fetching 1000) 0 (some "a") (List.append_nil _).symm
      hreturned hstored
  exact ⟨_, (List.append_nil _).symm, hreturned, hstored, between, now, houtcome⟩

end Sample

/-- **A lookup need not return a key that it has fetched**: with a lifetime of zero it is enough
that the clock moves between the store and the look. -/
theorem not_signingKey_finds_stored :
    ¬∀ (v : Verifier) (calls : Nat → Procedure (Except TokenError Token.SigningKey))
      (moves : List Move) (i : Nat) (keyId : Option String) (d rest : List Procedure.Exchange)
      (outcome : Except TokenError Token.SigningKey) (entry : CachedKeys) (key : Token.SigningKey),
      own i (State.run calls moves).history = d ++ rest →
        Conducts (v.signingKey keyId).run d (.finished outcome) →
          ⟨.storeKeys entry, .answer ()⟩ ∈ d → entry.keys.find? keyId = some key →
            outcome = .ok key := by
  intro hfinds
  have hresult : Sample.result? ((Sample.fetched 0 1).calls 0) =
      some (.error (missingKey (some "a"))) := by decide +kernel
  have hkept : ∃ e ∈ (Sample.fetched 0 1).history, e.caller = 0 ∧
      e.act.storedKeys? = some ⟨⟨[Sample.octetKey]⟩, 0⟩ := by decide +kernel
  obtain ⟨hreturned, hstored⟩ := Sample.conducts_of_fetched hresult hkept
  have hfound := hfinds (Sample.keeping 0) _ (Sample.fetching 1) 0 (some "a") _ []
    _ _ Sample.octetKey (List.append_nil _).symm hreturned hstored rfl
  cases hfound

end Verifier

end AccountDirectory
