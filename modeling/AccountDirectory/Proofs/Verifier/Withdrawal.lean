import AccountDirectory.Proofs.Interleaving.History
import AccountDirectory.Proofs.Verifier.Looks

/-!
# Withdrawn keys

Verifications at the same time share the kept key set, and nothing puts their fetches in order: an
old answer may arrive late and take the place of a newer one, and its time starts again. Still a key
that the issuer has withdrawn is not accepted for ever.

**The bound.** What is found in the kept set was published at some moment `m`. It was stored at most
`delay` after `m`, and the set bears a time that is not after that. So it is in use until
`m + delay` and its lifetime at most, whatever else was stored or has failed in between; and if the
key was withdrawn at `T`, then `m ≤ T`. The time that a set bears is never renewed without an answer
of the issuer: this is what `stored` says of every store in every schedule.
-/

namespace AccountDirectory

open Interleaving (State Move Event Act own lastKeys Traced Remembers)

/-- The key set that an act has received. -/
def Interleaving.Act.receivedKeys? : Interleaving.Act → Option Token.KeySet
  | .got _ answer => Verifier.published? answer
  | _ => none

namespace Verifier

/-- **The issuer's publications**: each key set that a call has received was published at some
moment, at most `delay` before the call stores it. -/
def PublishedWithin (published : Nat → Token.KeySet) (delay : Nat) (history : List Event) : Prop :=
  ∀ e ∈ history, ∀ keys, e.act.receivedKeys? = some keys → ∃ m, keys = published m ∧
    ∀ store ∈ history, store.caller = e.caller → store.act.storedKeys?.isSome →
      store.time ≤ m + delay

/-- **The law of withdrawn keys**, for verifications of the given tokens. -/
structure Withdraws (v : Verifier) (tokens : Nat → String) (s : State (Except TokenError Claims)) :
    Prop where
  /-- A token is accepted after a final look, under the key that was found. If that key is in no set
  published after `T`, the look was not later than `T` with the delay and the lifetime of a set. -/
  accepted : ∀ i claims, s.calls i = .running (.done (.ok claims)) →
    ∃ (segments : Token.Segments) (header : Token.Header) (key : Token.SigningKey)
      (entry : CachedKeys) (now : Nat) (look : List Procedure.Exchange) (date : Nat),
      readHeader (tokens i) = .ok (segments, header) ∧ checkSignature segments key = .ok () ∧
        own i s.history = look ++ [⟨.calendar, .answer date⟩] ∧
          Finds v header.keyId key entry now look ∧
            ∀ published delay T, PublishedWithin published delay s.history →
              (∀ m, T < m → key ∉ (published m).keys) →
                now ≤ T + delay + 1000 * v.keySetLifetime
  /-- A set is stored by a call that has received it in an answer, and bears a time after that. -/
  stored : ∀ later e earlier entry, s.history = later ++ e :: earlier →
    e.act.storedKeys? = some entry → ∃ answer ∈ earlier, answer.caller = e.caller ∧
      answer.act.receivedKeys? = some entry.keys ∧ answer.time ≤ entry.fetchedAt ∧
        entry.fetchedAt ≤ e.time
  /-- The kept set is the one that was stored last. -/
  kept : s.keys = lastKeys s.history

variable {v : Verifier} {tokens scopes : Nat → String} {s : State (Except TokenError Claims)}

/-- A key set that is stored was received by the same call, which has read the clock since. -/
theorem received_of_stored (ht : Traced (fun i ↦ (v.verify (tokens i) (scopes i)).run) s)
    (hr : Remembers s) {later earlier : List Event} {e : Event} {entry : CachedKeys}
    (hs : s.history = later ++ e :: earlier) (he : e.act.storedKeys? = some entry) :
    ∃ answer ∈ earlier, answer.caller = e.caller ∧
      answer.act.receivedKeys? = some entry.keys ∧ answer.time ≤ entry.fetchedAt ∧
        entry.fetchedAt ≤ e.time := by
  -- the store in the dialogue of its caller
  have hx : e.exchangeOf e.caller = some ⟨.storeKeys entry, .answer ()⟩ := by
    rw [Event.exchangeOf, if_pos rfl]
    exact Interleaving.exchange?_of_storedKeys? he
  obtain ⟨d, _, ⟨rest, hd⟩, hc⟩ := ht.exists_conducts e.caller
  rw [hs, Interleaving.own_append, Interleaving.own_cons, hx, List.append_assoc, List.append_assoc,
    Option.toList_some, List.singleton_append] at hd
  obtain ⟨before, request, received, hbefore, hkeys⟩ :=
    keeps_storesReceived_verify _ _ d _ hc _ _ _ _ hd.symm
  -- right before it the clock was read, and before that the answer was got
  have hclock : own e.caller earlier = (before ++ [⟨.exchange request, .answer received⟩]) ++
      [⟨.steadyClock, .answer entry.fetchedAt⟩] := by
    rw [hbefore, List.append_assoc]
    rfl
  obtain ⟨later₁, e₁, earlier₁, rfl, -, hx₁, hanswer⟩ :=
    Interleaving.exists_of_own_eq_concat hclock
  obtain ⟨later₂, e₂, earlier₂, rfl, hcaller, hx₂, -⟩ :=
    Interleaving.exists_of_own_eq_concat hanswer
  have hs₁ : s.history = (later ++ e :: later₁) ++ e₁ :: (later₂ ++ e₂ :: earlier₂) := by
    rw [hs, List.append_assoc, List.cons_append]
  have hs₂ : s.history = (later ++ e :: later₁ ++ e₁ :: later₂) ++ e₂ :: earlier₂ := by
    rw [hs₁, List.append_assoc _ (e₁ :: later₂), List.cons_append]
  have hread : e₁.act = .did .steadyClock entry.fetchedAt :=
    Act.eq_did_of_exchange? hx₁ fun _ h ↦ by cases h
  have hnow : entry.fetchedAt = e₁.time := by
    have hfits := hr.fits _ _ _ hs₁
    rw [Event.Fits, hread] at hfits
    exact hfits
  have hgot : e₂.act = .got request received := (hr.fits _ _ _ hs₂).eq_got hx₂
  refine ⟨e₂, by simp, hcaller, ?_, ?_, ?_⟩
  · rw [hgot]
    exact hkeys
  · rw [hnow]
    exact hr.time_le hs₁ (by simp)
  · rw [hnow]
    exact hr.time_le hs (by simp)

/-- What a look has read was stored before it. -/
theorem exists_stored_of_look (hr : Remembers s) {i : Nat} {later earlier : List Event}
    {entry : CachedKeys} (hs : s.history = later ++ earlier)
    (hx : ⟨.cachedKeys, .answer (some entry)⟩ ∈ own i earlier) :
    ∃ between store past, earlier = between ++ store :: past ∧
      store.act.storedKeys? = some entry := by
  obtain ⟨e, he, -, hex⟩ := Interleaving.mem_own_iff.1 hx
  obtain ⟨between, past, rfl⟩ := List.append_of_mem he
  have hread : e.act = .did .cachedKeys (some entry) :=
    Act.eq_did_of_exchange? hex fun _ h ↦ by cases h
  have hlast : some entry = lastKeys past := by
    have hfits := hr.fits (later ++ between) e past (by rw [hs, List.append_assoc])
    rwa [Event.Fits, hread] at hfits
  obtain ⟨store, hstore, hentry⟩ := List.exists_of_findSome?_eq_some hlast.symm
  obtain ⟨between', past', rfl⟩ := List.append_of_mem hstore
  exact ⟨between ++ e :: between', store, past', by rw [List.append_assoc]; rfl, hentry⟩

/-- A key that is found is one of the set. -/
theorem mem_of_find?_eq_some {set : Token.KeySet} {keyId : Option String} {key : Token.SigningKey}
    (h : set.find? keyId = some key) : key ∈ set.keys := by
  rcases keyId with - | id
  · exact List.mem_of_head? h
  · exact List.mem_of_find?_eq_some h

/-- **The bound of a look.** -/
theorem look_le_of_withdrawn (ht : Traced (fun i ↦ (v.verify (tokens i) (scopes i)).run) s)
    (hr : Remembers s) {i now : Nat} {keyId : Option String} {key : Token.SigningKey}
    {entry : CachedKeys} {look : List Procedure.Exchange}
    (hfinds : Finds v keyId key entry now look)
    (hlook : ∀ x ∈ look, x ∈ own i s.history) {published : Nat → Token.KeySet} {delay T : Nat}
    (hpublished : PublishedWithin published delay s.history)
    (hwithdrawn : ∀ m, T < m → key ∉ (published m).keys) :
    now ≤ T + delay + 1000 * v.keySetLifetime := by
  obtain ⟨⟨before, rfl⟩, hcurrent, hfound⟩ := hfinds
  have hx : ⟨.cachedKeys, .answer (some entry)⟩ ∈ own i s.history := hlook _ (by simp)
  obtain ⟨later, store, earlier, hs, hentry⟩ := exists_stored_of_look hr (List.nil_append _).symm hx
  obtain ⟨answer, hanswer, hcaller, hkeys, -, hbears⟩ := received_of_stored ht hr hs hentry
  have hmem : answer ∈ s.history := by
    rw [hs]
    exact List.mem_append_right _ (List.mem_cons_of_mem _ hanswer)
  obtain ⟨m, hm, hdelay⟩ := hpublished answer hmem entry.keys hkeys
  have hstored : store.time ≤ m + delay := by
    refine hdelay store (hs ▸ List.mem_append_right _ List.mem_cons_self) hcaller.symm ?_
    rw [hentry]
    rfl
  have hT : m ≤ T := by
    by_contra hlt
    exact hwithdrawn m (Nat.lt_of_not_le hlt) (hm ▸ mem_of_find?_eq_some hfound)
  have hage : now - entry.fetchedAt ≤ 1000 * v.keySetLifetime := by
    rwa [isCurrent, decide_eq_true_iff] at hcurrent
  omega

/-- **A withdrawn key stops being accepted**, in every schedule of verifications. -/
theorem verify_withdraws (v : Verifier) (tokens scopes : Nat → String) (moves : List Move) :
    Withdraws v tokens (State.run (fun i ↦ (v.verify (tokens i) (scopes i)).run) moves) := by
  have ht := Interleaving.traced_run (fun i ↦ (v.verify (tokens i) (scopes i)).run) moves
  have hr := Interleaving.remembers_run (fun i ↦ (v.verify (tokens i) (scopes i)).run) moves
  refine ⟨fun i claims hi ↦ ?_, fun _ _ _ _ ↦ received_of_stored ht hr, hr.keys⟩
  obtain ⟨segments, header, key, entry, now, look, date, hread, hsigned, hown, hfinds⟩ :=
    finds_of_conducts_verify (ht.conducts hi)
  refine ⟨segments, header, key, entry, now, look, date, hread, hsigned, hown, hfinds, ?_⟩
  intro published delay T hpublished hwithdrawn
  have hlook : ∀ x ∈ look, x ∈ own i (State.run _ moves).history := fun x hx ↦ by
    rw [hown]
    exact List.mem_append_left _ hx
  exact look_le_of_withdrawn ht hr hfinds hlook hpublished hwithdrawn

end Verifier

end AccountDirectory
