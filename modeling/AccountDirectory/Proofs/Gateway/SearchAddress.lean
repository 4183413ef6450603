import AccountDirectory.Proofs.Gateway.UserAddress
import AccountDirectory.Proofs.Http.Form

/-!
# The query of a search

A search goes to one of two places under the origin of its tenant, and what is searched for stands in
the query. `searches_ask` says what that is worth: read as a form, the query has the pairs of the
search and no others, with the term as it was given. So no term can add, change or cut off a pair or
get into the fragment, and different terms are searched for with different requests.
-/

namespace AccountDirectory

open Http (Authority IsOrigin IsQueryChar Path Request Scheme Url authority?)
open Http.Form (PairStands stands_append_encode stands_encode stands_self)
open Program (Conducts)
open Text.Percent (IsPlain)

/-- **The address asks with a form**: it is at this path of an origin, its query is read as these
pairs, and nothing stands behind that. -/
structure Http.Url.IsFormAt (u : Url) (scheme : Scheme) (authority : List Char) (path : Path)
    (pairs : List (String × String)) : Prop where
  place : { u with query := none : Url }.IsAt scheme authority path
  query : ∃ q, u.query = some q ∧ Http.Form.pairs? q = some pairs

theorem Http.Url.IsFormAt.withoutUser {u : Url} {scheme : Scheme} {authority : List Char}
    {path : Path} {pairs : List (String × String)} (h : u.IsFormAt scheme authority path pairs) :
    u.withoutUser.IsFormAt scheme authority path pairs where
  place := h.place.withoutUser
  query := h.query

namespace Gateway

variable {g : Gateway} {scheme : Scheme} {authority : List Char} {criteria criteria' : Criteria}
  {term term' : String} {request request' : Request}

/-! ### The place and the pairs of a search -/

/-- The segments that a search goes to. -/
def searchPlace : Criteria → List String
  | .email => ["api", "v2", "users-by-email"]
  | .username => ["api", "v2", "users"]

/-- **What a search asks.** -/
def searchPairs : Criteria → String → List (String × String)
  | .email, term => [("email", term)]
  | .username, term => [("q", "identities.user_id:" ++ term), ("search_engine", "v3")]

/-- The first pair of a search, as it is written. -/
def firstPart : Criteria → String → List Char × List Char
  | .email, term => ("email".toList, Text.Percent.encode term.toList)
  | .username, term =>
    ("q".toList, "identities.user_id:".toList ++ Text.Percent.encode term.toList)

/-- The others. -/
def otherParts : Criteria → List (List Char × List Char)
  | .email => []
  | .username => [("search_engine".toList, "v3".toList)]

theorem searchAddress_eq : g.searchAddress criteria term = g.baseAddress ++ String.ofList
    (Http.joined ((searchPlace criteria).map String.toList) ++
      '?' :: Http.Form.joined (firstPart criteria term) (otherParts criteria)) := by
  refine String.toList_inj.1 ?_
  cases criteria <;>
    simp [searchAddress, escaped, searchPlace, firstPart, otherParts, Http.joined, Http.Form.joined,
      Http.Form.pairText]

/-- The address of a search, as it is read. -/
def searchUrl (scheme : Scheme) (a : Authority) (criteria : Criteria) (term : String) : Url :=
  { Url.under scheme a (.segments (searchPlace criteria)) with
    query := some (String.ofList
      (Http.Form.joined (firstPart criteria term) (otherParts criteria))) }

/-- **The parts stand for the pairs.** -/
theorem forall₂_parts : List.Forall₂ PairStands (firstPart criteria term :: otherParts criteria)
    (searchPairs criteria term) := by
  cases criteria with
  | email => exact .cons ⟨stands_self (by decide), stands_encode term⟩ .nil
  | username =>
    exact .cons ⟨stands_self (by decide), stands_append_encode (by decide) term⟩
      (.cons ⟨stands_self (by decide), stands_self (by decide)⟩ .nil)

theorem isQueryChar_parts : ∀ part ∈ firstPart criteria term :: otherParts criteria,
    ∀ c ∈ part.1 ++ part.2, IsQueryChar c := by
  have hliteral : ∀ text ∈ ["email", "q", "identities.user_id:", "search_engine", "v3"],
      text.toList.Forall fun c ↦ Text.Percent.isUnreserved c ∨ c ∈ [':', '=', '&'] := by decide
  have hfixed : ∀ text ∈ ["email", "q", "identities.user_id:", "search_engine", "v3"],
      ∀ c ∈ text.toList, IsQueryChar c :=
    fun text htext c hc ↦
      (List.forall_iff_forall_mem.1 (hliteral text htext) c hc).imp_left .inl
  have hescaped : ∀ c ∈ Text.Percent.encode term.toList, IsQueryChar c :=
    fun c hc ↦ .inl (Text.Percent.isPlain_of_mem_encode hc)
  cases criteria with
  | email =>
    refine List.forall_mem_cons.2 ⟨List.forall_mem_append.2 ⟨?_, hescaped⟩, nofun⟩
    exact hfixed _ (by decide)
  | username =>
    refine List.forall_mem_cons.2 ⟨?_, List.forall_mem_cons.2 ⟨?_, nofun⟩⟩
    · refine List.forall_mem_append.2 ⟨hfixed _ (by decide), ?_⟩
      exact List.forall_mem_append.2 ⟨hfixed _ (by decide), hescaped⟩
    · exact List.forall_mem_append.2 ⟨hfixed _ (by decide), hfixed _ (by decide)⟩

/-- **The address of a search** is at the place of the search, and its query is the pairs as they are
written. -/
theorem parse?_searchAddress (hg : IsOrigin scheme authority g.baseAddress) :
    Url.parse? (g.searchAddress criteria term) =
      (authority? scheme authority).map fun (a, _) ↦ searchUrl scheme a criteria term := by
  have hplace : Http.pathOf (Http.resolve [] ((searchPlace criteria).map String.toList)) =
      .segments (searchPlace criteria) := by
    cases criteria <;> decide
  have hne : (searchPlace criteria).map String.toList ≠ [] := by
    cases criteria <;> exact List.cons_ne_nil _ _
  have hplain : ∀ segment ∈ (searchPlace criteria).map String.toList, ∀ c ∈ segment,
      IsPlain c := by
    have hunreserved : ∀ segment ∈ (searchPlace criteria).map String.toList,
        segment.Forall fun c ↦ Text.Percent.isUnreserved c := by
      cases criteria <;> decide
    exact fun segment hsegment c hc ↦
      .inl (List.forall_iff_forall_mem.1 (hunreserved segment hsegment) c hc)
  rw [searchAddress_eq, Url.parse?_segments_query hg hne hplain
    (Http.Form.isQueryChar_of_mem_joined isQueryChar_parts), hplace]
  rfl

theorem isFormAt_searchUrl {a : Authority} {leftover : List Char}
    (h : authority? scheme authority = some (a, leftover)) :
    (searchUrl scheme a criteria term).IsFormAt scheme authority (.segments (searchPlace criteria))
      (searchPairs criteria term) where
  place := Url.isAt_under h
  query := ⟨_, rfl, Http.Form.pairs?_joined forall₂_parts⟩

/-- **Different searches ask different pairs.** -/
theorem searchPairs_injective (h : searchPairs criteria term = searchPairs criteria' term') :
    criteria = criteria' ∧ term = term' := by
  cases criteria with
  | email =>
    cases criteria' with
    | email => exact ⟨rfl, by simpa [searchPairs] using h⟩
    | username => simp [searchPairs] at h
  | username =>
    cases criteria' with
    | email => simp [searchPairs] at h
    | username => exact ⟨rfl, by simpa [searchPairs] using h⟩

/-! ### Requests of a search -/

/-- **A request of a search**: it is sent when the accounts are searched. -/
def Searches (g : Gateway) (criteria : Criteria) (term : String) (request : Request) : Prop :=
  ∃ token d e, Conducts (g.searchUsers token criteria term).run d e ∧ request ∈ Procedure.sent d

theorem Searches.exists_build (h : g.Searches criteria term request) :
    ∃ token, Request.build .get (g.searchAddress criteria term) (some token) none = .ok request := by
  obtain ⟨token, d, e, h, hsent⟩ := h
  obtain ⟨es, hs, -⟩ := sendRun_of_searchUsers h
  exact ⟨token, hs.mem_sent_iff.1 hsent⟩

/-- **A request of a search asks what the search asks.** -/
theorem Searches.isFormAt (h : g.Searches criteria term request)
    (hg : IsOrigin scheme authority g.baseAddress) :
    request.url.IsFormAt scheme authority (.segments (searchPlace criteria))
      (searchPairs criteria term) := by
  obtain ⟨token, hbuild⟩ := h.exists_build
  obtain ⟨u, hu, hurl⟩ := Request.exists_of_build hbuild
  rw [parse?_searchAddress hg] at hu
  obtain ⟨⟨a, leftover⟩, ha, rfl⟩ := Option.map_eq_some_iff.1 hu
  obtain hurl | hurl := hurl
  · exact hurl ▸ isFormAt_searchUrl ha
  · exact hurl ▸ (isFormAt_searchUrl ha).withoutUser

/-- **A request of a search is sent**, if requests can be sent to its address. -/
theorem exists_searches (hg : IsOrigin scheme authority g.baseAddress) {a : Authority}
    (ha : authority? scheme authority = some (a, [])) (huser : a.user = none) {token : String}
    (htoken : token.toList.all Http.isHeaderChar)
    (hreach : (searchUrl scheme a criteria term).isReachable) :
    ∃ request, g.Searches criteria term request := by
  have hread : Url.parse? (g.searchAddress criteria term) =
      some (searchUrl scheme a criteria term) := by
    rw [parse?_searchAddress hg, ha]
    rfl
  obtain ⟨request, hbuild, -⟩ := Request.exists_build hread huser hreach htoken
  exact ⟨request, token, _, _, conducts_send_of_build hbuild,
    Procedure.mem_sent_iff.2 ⟨_, List.mem_singleton_self _⟩⟩

/-- **What a search asks the directory.** Requests of the search are sent, if the address is one that
requests can be sent to. Each goes to the place of the search, with a query that is read as its pairs
and nothing behind it, whatever the term is; and no other search has that query. -/
theorem searches_ask (hg : IsOrigin scheme authority g.baseAddress) (criteria : Criteria)
    (term : String) :
    (∀ (a : Authority) (token : String), authority? scheme authority = some (a, []) →
      a.user = none → token.toList.all Http.isHeaderChar →
        (searchUrl scheme a criteria term).isReachable →
          ∃ request, g.Searches criteria term request) ∧
    ∀ request, g.Searches criteria term request →
      request.url.IsFormAt scheme authority (.segments (searchPlace criteria))
        (searchPairs criteria term) ∧
      ∀ criteria' term' request', g.Searches criteria' term' request' →
        request'.url.query = request.url.query → criteria' = criteria ∧ term' = term := by
  refine ⟨fun a token ha huser htoken hreach ↦ exists_searches hg ha huser htoken hreach,
    fun request h ↦ ⟨h.isFormAt hg, fun criteria' term' request' h' hquery ↦ ?_⟩⟩
  obtain ⟨q, hq, hpairs⟩ := (h.isFormAt hg).query
  obtain ⟨q', hq', hpairs'⟩ := (h'.isFormAt hg).query
  rw [hquery, hq] at hq'
  obtain rfl := Option.some.inj hq'
  exact searchPairs_injective (Option.some.inj (hpairs'.symm.trans hpairs))

/-- A term that is full of marks is searched for as it is. -/
theorem Sample.searches_marks :
    ∃ request, gateway.Searches .username "a&b=c+d #e%41/?é" request ∧
      ∃ q, request.url.query = some q ∧ Http.Form.pairs? q =
        some [("q", "identities.user_id:a&b=c+d #e%41/?é"), ("search_engine", "v3")] := by
  obtain ⟨hsent, hasked⟩ := searches_ask isOrigin_gateway .username "a&b=c+d #e%41/?é"
  obtain ⟨request, h⟩ := hsent host "t" rfl rfl rfl (by decide +kernel)
  exact ⟨request, h, (hasked request h).1.query⟩

end Gateway

end AccountDirectory
