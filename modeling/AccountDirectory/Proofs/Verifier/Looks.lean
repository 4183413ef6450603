import AccountDirectory.Proofs.Requests

/-!
# How a verification looks for its key

Two facts about the dialogue of one verification, whatever it is answered.

* A token is accepted after a **final look** at the kept key set: the set was read, then the clock,
  and the key was found in the set, which was still in use at that time
  (`finds_of_conducts_verify`).
* A key set is stored **as it was received**: it was read out of an answer, after which the clock
  was read, and that is the time it bears (`keeps_storesReceived_verify`).
-/

namespace AccountDirectory

open Program (Conducts Breaks Keeps conducts_done_iff)

theorem Procedure.conducts_call_iff {op : Effect} {d : List Procedure.Exchange}
    {e : Program.Ending op.Answer} :
    Conducts (Procedure.call op) d e ↔
      (∃ r, d = [⟨op, r⟩] ∧ Breaks r e) ∨ ∃ a, d = [⟨op, .answer a⟩] ∧ e = .finished a := by
  show Conducts (.ask op .done) d e ↔ _
  rw [Program.conducts_ask_iff]
  refine or_congr_right ⟨?_, ?_⟩
  · rintro ⟨a, d', rfl, h⟩
    obtain ⟨rfl, rfl⟩ := conducts_done_iff.1 h
    exact ⟨a, rfl, rfl⟩
  · rintro ⟨a, rfl, rfl⟩
    exact ⟨a, [], rfl, .done a⟩

theorem Procedure.conducts_call_finished_iff {op : Effect} {d : List Procedure.Exchange}
    {a : op.Answer} :
    Conducts (Procedure.call op) d (.finished a) ↔ d = [⟨op, .answer a⟩] := by
  rw [Procedure.conducts_call_iff]
  constructor
  · rintro (⟨r, -, hr⟩ | ⟨b, rfl, he⟩)
    · cases hr
    · obtain rfl := Program.Ending.finished.inj he
      rfl
  · rintro rfl
    exact .inr ⟨a, rfl, rfl⟩

namespace Verifier

variable {v : Verifier} {keyId : Option String} {d : List Procedure.Exchange}

/-! ### One look -/

/-- A look reads the kept set and, if there is one, the clock. -/
theorem conducts_look_finished {α : Type} {missing : α} {judge : CachedKeys → Nat → α} {a : α}
    (h : Conducts (do
      match ← Procedure.call .cachedKeys with
      | none => pure missing
      | some entry =>
        let now ← Procedure.call .steadyClock
        pure (judge entry now) : Procedure α) d (.finished a)) :
    (d = [⟨.cachedKeys, .answer none⟩] ∧ a = missing) ∨ ∃ entry now,
      d = [⟨.cachedKeys, .answer (some entry)⟩, ⟨.steadyClock, .answer now⟩] ∧
        a = judge entry now := by
  obtain ⟨kept, d₁, d₂, rfl, hread, hrest⟩ := Program.conducts_bind_finished_iff.1 h
  obtain rfl := Procedure.conducts_call_finished_iff.1 hread
  rcases kept with - | entry
  · obtain ⟨rfl, he⟩ := conducts_done_iff.1 hrest
    exact .inl ⟨rfl, Program.Ending.finished.inj he⟩
  · obtain ⟨now, d₁, d₂, rfl, hclock, hlast⟩ := Program.conducts_bind_finished_iff.1 hrest
    obtain rfl := Procedure.conducts_call_finished_iff.1 hclock
    obtain ⟨rfl, he⟩ := conducts_done_iff.1 hlast
    exact .inr ⟨entry, now, rfl, Program.Ending.finished.inj he⟩

/-! ### The final look -/

/-- **The dialogue ends with a look that finds a key** at a time: the kept set was in use then. -/
structure Finds (v : Verifier) (keyId : Option String) (key : Token.SigningKey)
    (entry : CachedKeys) (now : Nat) (d : List Procedure.Exchange) : Prop where
  looked : ∃ before, d =
    before ++ [⟨.cachedKeys, .answer (some entry)⟩, ⟨.steadyClock, .answer now⟩]
  current : v.isCurrent entry now
  found : entry.keys.find? keyId = some key

theorem Finds.append {key : Token.SigningKey} {entry : CachedKeys} {now : Nat}
    (h : Finds v keyId key entry now d) (before : List Procedure.Exchange) :
    Finds v keyId key entry now (before ++ d) := by
  obtain ⟨⟨before', rfl⟩, hcurrent, hfound⟩ := h
  exact ⟨⟨before ++ before', (List.append_assoc _ _ _).symm⟩, hcurrent, hfound⟩

theorem finds_of_conducts_keptKey {key : Token.SigningKey}
    (h : Conducts (v.keptKey keyId) d (.finished (some key))) :
    ∃ entry now, Finds v keyId key entry now d := by
  obtain ⟨-, hkey⟩ | ⟨entry, now, rfl, hkey⟩ := conducts_look_finished h
  · cases hkey
  split_ifs at hkey with hcurrent
  exact ⟨entry, now, ⟨[], rfl⟩, hcurrent, hkey.symm⟩

/-- The look that decides. -/
theorem finds_of_conducts_lastLook {key : Token.SigningKey}
    (h : Conducts (v.lastLook keyId).run d (.finished (.ok key))) :
    ∃ entry now, Finds v keyId key entry now d := by
  rw [lastLook, ExceptT.run_bind_lift] at h
  obtain ⟨found, d₁, d₂, rfl, hlook, hrest⟩ := Program.conducts_bind_finished_iff.1 h
  rcases found with - | key'
  · cases (conducts_done_iff.1 hrest).2
  · obtain ⟨rfl, he⟩ := conducts_done_iff.1 hrest
    obtain rfl := Except.ok.inj (Program.Ending.finished.inj he)
    rw [List.append_nil]
    exact finds_of_conducts_keptKey hlook

theorem finds_of_conducts_signingKey {key : Token.SigningKey}
    (h : Conducts (v.signingKey keyId).run d (.finished (.ok key))) :
    ∃ entry now, Finds v keyId key entry now d := by
  rw [signingKey_eq, ExceptT.run_bind_lift] at h
  obtain ⟨found, d₁, d₂, rfl, hfirst, hrest⟩ := Program.conducts_bind_finished_iff.1 h
  rcases found with - | key'
  · -- the first look has found nothing, so the last one decides
    rw [Option.elim_none, ExceptT.run_bind_lift] at hrest
    obtain ⟨recently, d₂, d₃, rfl, -, hrest⟩ := Program.conducts_bind_finished_iff.1 hrest
    obtain ⟨entry, now, hfinds⟩ : ∃ entry now, Finds v keyId key entry now d₃ := by
      rcases recently with - | -
      · obtain ⟨-, d₃, d₄, rfl, -, hlast⟩ := Program.conducts_bindT_ok_iff.1 hrest
        obtain ⟨entry, now, hfinds⟩ := finds_of_conducts_lastLook hlast
        exact ⟨entry, now, hfinds.append d₃⟩
      · exact finds_of_conducts_lastLook hrest
    exact ⟨entry, now, (hfinds.append d₂).append d₁⟩
  · obtain ⟨rfl, he⟩ := conducts_done_iff.1 hrest
    obtain rfl := Except.ok.inj (Program.Ending.finished.inj he)
    rw [List.append_nil]
    exact finds_of_conducts_keptKey hfirst

/-- **A token is accepted after a final look**, and its signature is valid under the key that was
found. After the look only the calendar is read. -/
theorem finds_of_conducts_verify {token scope : String} {claims : Claims}
    (h : Conducts (v.verify token scope).run d (.finished (.ok claims))) :
    ∃ (segments : Token.Segments) (header : Token.Header) (key : Token.SigningKey)
      (entry : CachedKeys) (now : Nat) (look : List Procedure.Exchange) (date : Nat),
      readHeader token = .ok (segments, header) ∧ checkSignature segments key = .ok () ∧
        d = look ++ [⟨.calendar, .answer date⟩] ∧
          Finds v header.keyId key entry now look := by
  obtain ⟨⟨segments, header⟩, hread, h₁⟩ := Program.conducts_check_bind_ok_iff.1 h
  dsimp only at h₁
  -- the algorithm is checked before anything is asked
  split at h₁
  · obtain ⟨_, _, _, -, hthrow, -⟩ := Program.conducts_bindT_ok_iff.1 h₁
    cases (conducts_done_iff.1 hthrow).2
  obtain ⟨key, look, d₁, rfl, hkey, h₂⟩ := Program.conducts_bindT_ok_iff.1 h₁
  obtain ⟨⟨⟩, hsigned, h₃⟩ := Program.conducts_check_bind_ok_iff.1 h₂
  obtain ⟨⟨owner, validity⟩, -, h₄⟩ := Program.conducts_check_bind_ok_iff.1 h₃
  rw [ExceptT.run_bind_lift] at h₄
  obtain ⟨date, d₂, d₃, rfl, hdate, h₅⟩ := Program.conducts_bind_finished_iff.1 h₄
  obtain ⟨⟨⟩, -, h₆⟩ := Program.conducts_check_bind_ok_iff.1 h₅
  have hsilent : d₃ = [] := by
    dsimp only at h₆
    split at h₆
    · obtain ⟨_, _, _, -, hthrow, -⟩ := Program.conducts_bindT_ok_iff.1 h₆
      cases (conducts_done_iff.1 hthrow).2
    split at h₆
    · exact (conducts_done_iff.1 h₆).1
    · obtain ⟨_, _, _, -, -, hthrow⟩ := Program.conducts_bindT_ok_iff.1 h₆
      cases (conducts_done_iff.1 hthrow).2
  obtain ⟨entry, now, hfinds⟩ := finds_of_conducts_signingKey hkey
  obtain rfl := Procedure.conducts_call_finished_iff.1 hdate
  refine ⟨segments, header, key, entry, now, look, date, hread, hsigned, ?_, hfinds⟩
  rw [hsilent]
  rfl

/-! ### What is stored -/

/-- The key set that an answer publishes. -/
def published? : Except Http.TransportFailure Http.Response → Option Token.KeySet
  | .error _ => none
  | .ok response =>
    if Http.isSuccess response.status then Token.KeySet.ofOctets? response.body else none

/-- **Key sets are stored as they were received**: right before, the set was read out of an answer
and then the clock was read. -/
def StoresReceived (d : List Procedure.Exchange) : Prop :=
  ∀ before entry r after, d = before ++ ⟨.storeKeys entry, r⟩ :: after →
    ∃ before' request answer, before =
        before' ++ [⟨.exchange request, .answer answer⟩,
          ⟨.steadyClock, .answer entry.fetchedAt⟩] ∧
      published? answer = some entry.keys

/-- A dialogue in which nothing is stored. -/
theorem storesReceived_of_forall (h : ∀ x ∈ d, ∀ entry, x.op ≠ .storeKeys entry) :
    StoresReceived d := by
  intro before entry r after hd
  have hx : ⟨.storeKeys entry, r⟩ ∈ d := by
    rw [hd]
    exact List.mem_append_right _ List.mem_cons_self
  exact absurd rfl (h _ hx entry)

theorem StoresReceived.append {d₁ d₂ : List Procedure.Exchange} (h₁ : StoresReceived d₁)
    (h₂ : StoresReceived d₂) : StoresReceived (d₁ ++ d₂) := by
  intro before entry r after hd
  obtain ⟨cut, rfl, htail⟩ | ⟨cut, rfl, htail⟩ := List.append_eq_append_iff.1 hd
  · -- it is stored in the second dialogue
    obtain ⟨before', request, answer, rfl, hpublished⟩ := h₂ cut entry r after htail
    exact ⟨d₁ ++ before', request, answer, (List.append_assoc _ _ _).symm, hpublished⟩
  · rcases cut with - | ⟨x, cut⟩
    · obtain ⟨before', request, answer, hnil, -⟩ := h₂ [] entry r after htail.symm
      simp at hnil
    · obtain ⟨rfl, rfl⟩ := List.cons.inj htail
      exact h₁ before entry r cut rfl

theorem storesReceived_nil : StoresReceived [] :=
  storesReceived_of_forall fun _ hx ↦ absurd hx List.not_mem_nil

/-- A program that does other operations stores nothing. -/
theorem keeps_storesReceived_of_obeys {α : Type} {p : Procedure α} {post : α → Prop}
    (h : p.Obeys (fun op ↦ ∀ entry, op ≠ .storeKeys entry) post) : p.Keeps StoresReceived :=
  fun _ _ hd ↦ storesReceived_of_forall (hd.obeys h).1

/-- A set that is stored right after it was received. -/
theorem storesReceived_fetched {request : Http.Request}
    {answer : Except Http.TransportFailure Http.Response} {keys : Token.KeySet} {now : Nat}
    {r : Program.Reply Unit} (h : published? answer = some keys) :
    StoresReceived [⟨.exchange request, .answer answer⟩, ⟨.steadyClock, .answer now⟩,
      ⟨.storeKeys ⟨keys, now⟩, r⟩] := by
  intro before entry r' after hd
  -- of the three exchanges only the last one stores something
  rcases before with - | ⟨_, - | ⟨_, - | ⟨_, before⟩⟩⟩
  · cases hd
  · cases hd
  · cases hd
    exact ⟨[], request, answer, rfl, h⟩
  · simp at hd

/-- One exchange, unless it stores a set. -/
theorem storesReceived_singleton {op : Effect} (r : Program.Reply op.Answer)
    (h : ∀ entry, op ≠ .storeKeys entry) : StoresReceived [⟨op, r⟩] :=
  storesReceived_of_forall fun x hx ↦ by rwa [List.mem_singleton.1 hx]

/-- A fetch stores what it has received, or nothing. -/
theorem keeps_storesReceived_fetchKeys : v.fetchKeys.run.Keeps StoresReceived := by
  intro d e h
  rw [fetchKeys, ExceptT.run_bind_lift] at h
  have hsend := Program.conducts_note_iff.1 h
  rw [Program.bind, ExceptT.run_bind_lift, Procedure.exchange] at hsend
  rcases hb : Http.Request.build .get v.keysAddress none none with failure | request
  · rw [hb] at hsend
    obtain ⟨rfl, -⟩ := conducts_done_iff.1 hsend
    exact storesReceived_nil
  rw [hb] at hsend
  obtain ⟨r, rfl, -⟩ | ⟨answer, d', rfl, hrest⟩ := Program.conducts_ask_iff.1 hsend
  · exact storesReceived_singleton r (by simp)
  have hsilent : d' = [] → StoresReceived (⟨.exchange request, .answer answer⟩ :: d') := by
    rintro rfl
    exact storesReceived_singleton _ (by simp)
  rcases answer with failure | response
  · exact hsilent (conducts_done_iff.1 hrest).1
  rw [Program.bind] at hrest
  dsimp only at hrest
  split at hrest
  · next hs =>
    split at hrest
    · next keys hkeys =>
      have hpublished : published? (.ok response) = some keys := (if_pos hs).trans hkeys
      rw [ExceptT.run_bind_lift] at hrest
      obtain ⟨r, rfl, -⟩ | ⟨now, d', rfl, hstore⟩ := Program.conducts_ask_iff.1 hrest
      · exact storesReceived_of_forall (by simp)
      obtain ⟨r, rfl, -⟩ | ⟨done, d', rfl, hend⟩ := Program.conducts_ask_iff.1 hstore
      · exact storesReceived_fetched hpublished
      · obtain ⟨rfl, -⟩ := conducts_done_iff.1 hend
        exact storesReceived_fetched hpublished
    · exact hsilent (conducts_done_iff.1 hrest).1
  · exact hsilent (conducts_done_iff.1 hrest).1

theorem keeps_storesReceived_done {α : Type} (a : α) :
    Keeps StoresReceived (.done a : Procedure α) := by
  intro d e h
  obtain ⟨rfl, -⟩ := conducts_done_iff.1 h
  exact storesReceived_nil

theorem keeps_storesReceived_keptKey : (v.keptKey keyId).Keeps StoresReceived :=
  keeps_storesReceived_of_obeys (v.keptKey_obeys (by simp) (by simp) keyId)

theorem keeps_storesReceived_lastLook : (v.lastLook keyId).run.Keeps StoresReceived := by
  rw [lastLook, ExceptT.run_bind_lift]
  refine Keeps.bind (fun _ _ ↦ .append) keeps_storesReceived_keptKey fun found ↦ ?_
  rcases found with - | key
  · exact keeps_storesReceived_done _
  · exact keeps_storesReceived_done _

theorem keeps_storesReceived_signingKey : (v.signingKey keyId).run.Keeps StoresReceived := by
  rw [signingKey_eq, ExceptT.run_bind_lift]
  refine Keeps.bind (fun _ _ ↦ .append) keeps_storesReceived_keptKey fun found ↦ ?_
  rcases found with - | key
  · rw [Option.elim_none, ExceptT.run_bind_lift]
    have hrecent : v.recentlyFetched.Keeps StoresReceived :=
      keeps_storesReceived_of_obeys (v.recentlyFetched_obeys (by simp) (by simp))
    refine Keeps.bind (fun _ _ ↦ .append) hrecent fun recently ↦ ?_
    rcases recently with - | -
    · exact Keeps.bindT storesReceived_nil (fun _ _ ↦ .append) keeps_storesReceived_fetchKeys
        fun _ ↦ keeps_storesReceived_lastLook
    · exact keeps_storesReceived_lastLook
  · exact keeps_storesReceived_done _

/-- **A verification stores key sets as it has received them.** -/
theorem keeps_storesReceived_verify (token scope : String) :
    (v.verify token scope).run.Keeps StoresReceived := by
  have hcheck : ∀ {α : Type} (x : Except TokenError α),
      (ExceptT.mk (.done x) : Step α).run.Keeps StoresReceived := fun x ↦
    keeps_storesReceived_done x
  rw [verify]
  refine Keeps.bindT storesReceived_nil (fun _ _ ↦ .append) (hcheck _) fun read ↦ ?_
  obtain ⟨segments, header⟩ := read
  dsimp only
  split
  · exact keeps_storesReceived_done _
  refine Keeps.bindT storesReceived_nil (fun _ _ ↦ .append) keeps_storesReceived_signingKey
    fun key ↦ ?_
  refine Keeps.bindT storesReceived_nil (fun _ _ ↦ .append) (hcheck _) fun _ ↦ ?_
  refine Keeps.bindT storesReceived_nil (fun _ _ ↦ .append) (hcheck _) fun claims ↦ ?_
  obtain ⟨owner, validity⟩ := claims
  rw [ExceptT.run_bind_lift]
  refine Keeps.bind (fun _ _ ↦ .append) ?_ fun date ↦ ?_
  · exact keeps_storesReceived_of_obeys (Procedure.call_obeys .calendar (by simp))
  refine Keeps.bindT storesReceived_nil (fun _ _ ↦ .append) (hcheck _) fun _ ↦ ?_
  dsimp only
  split
  · exact keeps_storesReceived_done _
  split
  · exact keeps_storesReceived_done _
  · rw [ExceptT.run_bind_lift]
    refine Keeps.bind (fun _ _ ↦ .append) ?_ fun _ ↦ keeps_storesReceived_done _
    exact keeps_storesReceived_of_obeys Procedure.log_obeys

end Verifier

end AccountDirectory
