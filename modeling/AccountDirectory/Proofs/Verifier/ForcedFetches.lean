import AccountDirectory.Proofs.Interleaving.Requests
import AccountDirectory.Proofs.Verifier.FetchedKeys
import AccountDirectory.Proofs.Verifier.Withdrawal

/-!
# Forced fetches

A lookup that misses its key in a kept set which is still in use may **force** a fetch. What holds
it back is the quiet time of the set that is kept, and nothing else.

* **A forced request is sent after the quiet time of the kept set** (`verify_paces`): ten seconds
  after the answer in which the set was received, so ten seconds after every request that was sent
  before that answer.
* **Two forced requests need not be ten seconds apart** (`not_forced_apart`). A fetch that fails
  stores nothing, so the set that is kept stays old and the next lookup forces a fetch again; and so
  does every lookup that comes while a fetch is on its way.

What forced a request is read off the dialogue that its caller had held by then: two looks at the
kept set, and the clock after each of them.
-/

namespace AccountDirectory

open Program (Conducts Asks asks_bind_iff asks_bindT_iff asks_check_bind_iff not_asks_done)
open Interleaving (State Move Event Act own Traced Remembers SendsAsked)

namespace Verifier

variable {v : Verifier} {keyId : Option String} {d : List Procedure.Exchange}

/-! ### The looks before a request -/

/-- The operation is no request. -/
def IsLocal (op : Effect) : Prop := ∀ request, op ≠ .exchange request

theorem isLocal_cachedKeys : IsLocal .cachedKeys := fun _ h ↦ by cases h

theorem isLocal_steadyClock : IsLocal .steadyClock := fun _ h ↦ by cases h

theorem isLocal_calendar : IsLocal .calendar := fun _ h ↦ by cases h

theorem keptKey_isLocal : (v.keptKey keyId).Obeys IsLocal fun _ ↦ True :=
  v.keptKey_obeys isLocal_cachedKeys isLocal_steadyClock keyId

theorem not_asks_of_obeys {α : Type} {p : Procedure α} {post : α → Prop} {request : Http.Request}
    (hp : p.Obeys IsLocal post) : ¬Asks p d (.exchange request) :=
  fun h ↦ h.allowed hp request rfl

theorem lastLook_isLocal : (v.lastLook keyId).run.Obeys IsLocal fun _ ↦ True := by
  rw [lastLook, ExceptT.run_bind_lift]
  refine keptKey_isLocal.bind fun found _ ↦ ?_
  rcases found with - | key <;> trivial

/-- A fetch begins with its request. -/
theorem eq_nil_of_asks_fetchKeys {request : Http.Request}
    (h : Asks v.fetchKeys.run d (.exchange request)) : d = [] := by
  rw [fetchKeys, ExceptT.run_bind_lift] at h
  have hsend := Program.asks_note_iff.1 h
  rw [Program.bind, ExceptT.run_bind_lift, Procedure.exchange] at hsend
  rcases hb : Http.Request.build .get v.keysAddress none none with failure | built
  · rw [hb] at hsend
    exact absurd hsend not_asks_done
  rw [hb] at hsend
  obtain ⟨rfl, -⟩ | ⟨answer, d', rfl, hrest⟩ := Program.asks_ask_iff.1 hsend
  · rfl
  -- after an answer the clock is read and the set is stored
  rw [Program.bind] at hrest
  rcases answer with failure | response
  · exact absurd hrest not_asks_done
  dsimp only at hrest
  split at hrest
  · split at hrest
    · obtain ⟨-, hop⟩ | ⟨now, d', rfl, hstore⟩ := Program.asks_ask_iff.1 hrest
      · cases hop
      obtain ⟨-, hop⟩ | ⟨_, d', rfl, hend⟩ := Program.asks_ask_iff.1 hstore
      · cases hop
      · exact absurd hend not_asks_done
    · exact absurd hrest not_asks_done
  · exact absurd hrest not_asks_done

/-- **A lookup sends its request after two looks**: the first has not found the key, and the second
one has found the kept set not too young. -/
theorem exists_looks_of_asks {request : Http.Request}
    (h : Asks (v.signingKey keyId).run d (.exchange request)) :
    ∃ look check, d = look ++ check ∧ Conducts (v.keptKey keyId) look (.finished none) ∧
      Conducts v.recentlyFetched check (.finished false) := by
  rw [signingKey_eq, ExceptT.run_bind_lift] at h
  obtain hfirst | ⟨found, look, d₂, rfl, hlook, h₂⟩ := asks_bind_iff.1 h
  · exact absurd hfirst (not_asks_of_obeys keptKey_isLocal)
  rcases found with - | key
  · rw [Option.elim_none, ExceptT.run_bind_lift] at h₂
    obtain hsecond | ⟨recently, check, d₃, rfl, hcheck, h₃⟩ := asks_bind_iff.1 h₂
    · exact absurd hsecond
        (not_asks_of_obeys (v.recentlyFetched_obeys isLocal_cachedKeys isLocal_steadyClock))
    rcases recently with - | -
    · obtain hfetch | ⟨_, d₃, d₄, rfl, -, hlast⟩ := asks_bindT_iff.1 h₃
      · obtain rfl := eq_nil_of_asks_fetchKeys hfetch
        exact ⟨look, check, by rw [List.append_nil], hlook, hcheck⟩
      · exact absurd hlast (not_asks_of_obeys lastLook_isLocal)
    · exact absurd h₃ (not_asks_of_obeys lastLook_isLocal)
  · exact absurd h₂ not_asks_done

/-- A verification sends a request where the lookup of its key does. -/
theorem asks_signingKey_of_verify {token scope : String} {request : Http.Request}
    (h : Asks (v.verify token scope).run d (.exchange request)) :
    ∃ segments header, readHeader token = .ok (segments, header) ∧
      Asks (v.signingKey header.keyId).run d (.exchange request) := by
  obtain ⟨⟨segments, header⟩, hread, h₁⟩ := asks_check_bind_iff.1 h
  refine ⟨segments, header, hread, ?_⟩
  dsimp only at h₁
  split at h₁
  · exact absurd h₁ not_asks_done
  obtain hkey | ⟨key, d₁, d₂, rfl, -, h₂⟩ := asks_bindT_iff.1 h₁
  · exact hkey
  -- after the lookup only the calendar is asked for
  obtain ⟨⟨⟩, -, h₃⟩ := asks_check_bind_iff.1 h₂
  obtain ⟨⟨owner, validity⟩, -, h₄⟩ := asks_check_bind_iff.1 h₃
  rw [ExceptT.run_bind_lift] at h₄
  obtain hdate | ⟨date, d₃, d₄, rfl, -, h₅⟩ := asks_bind_iff.1 h₄
  · exact absurd hdate (not_asks_of_obeys (Procedure.call_obeys .calendar isLocal_calendar))
  obtain ⟨⟨⟩, -, h₆⟩ := asks_check_bind_iff.1 h₅
  dsimp only at h₆
  split at h₆
  · exact absurd h₆ not_asks_done
  split at h₆
  · exact absurd h₆ not_asks_done
  · rw [ExceptT.run_bind_lift] at h₆
    exact absurd (Program.asks_note_iff.1 h₆) not_asks_done

/-! ### Forced requests -/

/-- The set that forces a request after this dialogue: the key was missing in a set in use, and the
set that is kept now, which may be another one, is in use as well. -/
def forcedBy? (v : Verifier) (keyId : Option String) : List Procedure.Exchange → Option CachedKeys
  | [⟨.cachedKeys, .answer (some first)⟩, ⟨.steadyClock, .answer now⟩,
      ⟨.cachedKeys, .answer (some kept)⟩, ⟨.steadyClock, .answer later⟩] =>
    if v.isCurrent first now && (first.keys.find? keyId).isNone && v.isCurrent kept later then
      some kept
    else none
  | _ => none

/-- The key id that the header of a token names, if it has a header. -/
def keyIdOf? (token : String) : Option (Option String) :=
  match readHeader token with
  | .ok (_, header) => some header.keyId
  | .error _ => none

/-- The set that forced an event, if that is a request and was forced. -/
def forcing? (v : Verifier) (tokens : Nat → String) (e : Event) (earlier : List Event) :
    Option CachedKeys :=
  match e.act with
  | .sent _ => (keyIdOf? (tokens e.caller)).bind fun keyId ↦
    v.forcedBy? keyId (own e.caller earlier)
  | _ => none

/-- The times at which forced requests were sent, the newest first. -/
def forcedTimes (v : Verifier) (tokens : Nat → String) : List Event → List Nat
  | [] => []
  | e :: earlier =>
    (v.forcing? tokens e earlier).toList.map (fun _ ↦ e.time) ++ v.forcedTimes tokens earlier

/-- **What the check has seen of the set that forces a request**: its quiet time was over. -/
theorem quiet_of_forcedBy? {request : Http.Request} {entry : CachedKeys}
    (hasks : Asks (v.signingKey keyId).run d (.exchange request))
    (h : v.forcedBy? keyId d = some entry) :
    ∃ now, ⟨.cachedKeys, .answer (some entry)⟩ ∈ d ∧ ⟨.steadyClock, .answer now⟩ ∈ d ∧
      entry.fetchedAt + quietTime ≤ now := by
  obtain ⟨look, check, rfl, hlook, hcheck⟩ := exists_looks_of_asks hasks
  -- only with a set at both looks can the request be forced
  rcases conducts_look_finished hlook with ⟨rfl, -⟩ | ⟨first, now, rfl, -⟩
  · rcases conducts_look_finished hcheck with ⟨rfl, -⟩ | ⟨kept, later, rfl, -⟩ <;> cases h
  rcases conducts_look_finished hcheck with ⟨rfl, -⟩ | ⟨kept, later, rfl, hyoung⟩
  · cases h
  rw [List.cons_append, List.cons_append, List.nil_append, forcedBy?] at h
  split at h
  · next hforced =>
    obtain rfl := Option.some.inj h
    have hcurrent : v.isCurrent kept later := (Bool.and_eq_true_iff.1 hforced).2
    rw [isYoung, hcurrent, Bool.and_true, eq_comm, decide_eq_false_iff_not] at hyoung
    have hpositive : 0 < quietTime := by decide
    exact ⟨later, by simp, by simp, by omega⟩
  · cases h

/-! ### The law -/

/-- **The law of forced requests.** The set that forces a request was received in an answer, and the
request is sent when the quiet time of that set is over. So every request that was sent before that
answer was sent at least the quiet time before. -/
def Paces (v : Verifier) (tokens : Nat → String) (history : List Event) : Prop :=
  ∀ later e earlier entry, history = later ++ e :: earlier →
    v.forcing? tokens e earlier = some entry →
      ∃ recent answer past, earlier = recent ++ answer :: past ∧
        answer.act.receivedKeys? = some entry.keys ∧ answer.time ≤ entry.fetchedAt ∧
          entry.fetchedAt + quietTime ≤ e.time ∧
            ∀ before ∈ past, before.time + quietTime ≤ e.time

variable {tokens scopes : Nat → String} {s : State (Except TokenError Claims)}

/-- Requests that are sent where they are asked for keep to the law. -/
theorem paces_of_sendsAsked (ht : Traced (fun i ↦ (v.verify (tokens i) (scopes i)).run) s)
    (hr : Remembers s)
    (hsent : SendsAsked (fun i ↦ (v.verify (tokens i) (scopes i)).run) s.history) :
    v.Paces tokens s.history := by
  intro later e earlier entry hs hforcing
  rw [forcing?] at hforcing
  split at hforcing
  · next request hact =>
    obtain ⟨keyId, hkeyId, hforced⟩ := Option.bind_eq_some_iff.1 hforcing
    obtain ⟨segments, header, hheader, hasks⟩ :=
      asks_signingKey_of_verify (hsent later e earlier hs request hact)
    obtain rfl : header.keyId = keyId := by
      rw [keyIdOf?, hheader] at hkeyId
      exact Option.some.inj hkeyId
    obtain ⟨now, hread, hclock, hquiet⟩ := quiet_of_forcedBy? hasks hforced
    have hnow : now ≤ e.time := hr.le_time_of_own hs hclock
    -- the set was stored by a call that had received it
    obtain ⟨between, store, past, rfl, hstored⟩ :=
      exists_stored_of_look hr (hs.trans (List.append_cons later e earlier)) hread
    have hstore : s.history = (later ++ e :: between) ++ store :: past := by
      rw [hs, List.append_assoc, List.cons_append]
    obtain ⟨answer, hanswer, -, hreceived, htime, -⟩ := received_of_stored ht hr hstore hstored
    obtain ⟨recent, past, rfl⟩ := List.append_of_mem hanswer
    have hgot : s.history = (later ++ e :: between ++ store :: recent) ++ answer :: past := by
      rw [hstore, List.append_assoc _ (store :: recent), List.cons_append]
    refine ⟨between ++ store :: recent, answer, past, by simp, hreceived, htime,
      hquiet.trans hnow, fun before hbefore ↦ ?_⟩
    have hle : before.time ≤ answer.time := hr.time_le hgot hbefore
    omega
  · cases hforcing

/-- **Forced requests keep to the quiet time of the kept set**, in every schedule of
verifications. -/
theorem verify_paces (v : Verifier) (tokens scopes : Nat → String) (moves : List Move) :
    v.Paces tokens (State.run (fun i ↦ (v.verify (tokens i) (scopes i)).run) moves).history :=
  paces_of_sendsAsked (Interleaving.traced_run _ moves) (Interleaving.remembers_run _ moves)
    (Interleaving.asks_of_sent _ moves)

/-! ### Requests that are not apart -/

namespace Sample

/-- A token that names the key `b`, which the issuer does not have. -/
def forged : String := "eyJhbGciOiJSUzI1NiIsImtpZCI6ImIifQ.."

/-- The kept set is fetched by a first call. Ten seconds later a second call misses its key in it
and forces a request, which fails; and a third call does the same at that moment. -/
def failing : List Move :=
  [.act 0 0, .act 0 0, .act 0 0, .receive 0 (.ok keySet), .act 0 0, .act 0 0, .act 0 0, .act 0 0,
    .pass 10000, .act 1 0, .act 1 0, .act 1 0, .act 1 0, .act 1 0, .receive 1 (.ok ⟨500, []⟩),
    .act 2 0, .act 2 0, .act 2 0, .act 2 0, .act 2 0]

end Sample

/-- **Two forced requests need not be ten seconds apart.** -/
theorem not_forced_apart :
    ¬∀ (v : Verifier) (tokens scopes : Nat → String) (moves : List Move),
      (v.forcedTimes tokens
          (State.run (fun i ↦ (v.verify (tokens i) (scopes i)).run) moves).history).Pairwise
        fun later earlier ↦ earlier + quietTime ≤ later := by
  intro hapart
  have htimes : (Sample.keeping 300).forcedTimes (fun _ ↦ Sample.forged)
      (State.run (fun _ ↦ ((Sample.keeping 300).verify Sample.forged "").run)
        Sample.failing).history = [10000, 10000] := by decide +kernel
  have hpair := hapart (Sample.keeping 300) (fun _ ↦ Sample.forged) (fun _ ↦ "") Sample.failing
  rw [htimes] at hpair
  exact absurd hpair (by decide)

end Verifier

end AccountDirectory
