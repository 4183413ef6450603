import AccountDirectory.Proofs.Http.Segments
import AccountDirectory.Proofs.Requests

/-!
# The place of a user in the directory

The gateway asks about a user under the origin of its tenant, at the segments `api`, `v2`, `users`
and the escaped id. `asksAbout_addresses` says what that is worth. Every id but two is one segment
at the end of that path, which reads back as the id; there is no query and no fragment, whatever is
in the id; and no two users have the same path.

The two are `.` and `..`. They are written as they are, since a dot needs no escape, and the reader
of the address takes them for steps (`userPlace`): a request about `.` goes to the list of the users
and one about `..` to the place above (`not_asksAbout_user`).
-/

namespace AccountDirectory

open Http (Authority IsOrigin Path Request Scheme Url authority?)
open Program (Conducts)
open Text.Percent (IsPlain)

namespace Gateway

variable {g : Gateway} {scheme : Scheme} {authority : List Char} {userId other : String}
  {request request' : Request}

/-! ### The place of a user -/

/-- **The segments that a request about a user goes to.** -/
def userPlace (userId : String) : List String :=
  if userId = "." then ["api", "v2", "users", ""]
  else if userId = ".." then ["api", "v2", ""]
  else ["api", "v2", "users", escaped userId]

theorem toList_escaped : (escaped userId).toList = Text.Percent.encode userId.toList :=
  String.toList_ofList

theorem escaped_injective : Function.Injective escaped := by
  intro userId other h
  refine String.toList_inj.1 (Text.Percent.encode_injective ?_)
  rw [← toList_escaped, ← toList_escaped, h]

theorem escaped_ne_empty (h : userId ≠ "") : escaped userId ≠ "" :=
  fun hempty ↦ h (escaped_injective hempty)

/-- Where the users are. -/
def usersSegments : List (List Char) := ["api".toList, "v2".toList, "users".toList]

/-- The segments that the address of a user is written with. -/
def userSegments (userId : String) : List (List Char) :=
  usersSegments ++ [Text.Percent.encode userId.toList]

theorem userAddress_eq :
    g.userAddress userId = g.baseAddress ++ String.ofList (Http.joined (userSegments userId)) := by
  rw [userAddress, escaped, userSegments, String.append_assoc]
  refine congrArg (g.baseAddress ++ ·) (String.toList_inj.1 ?_)
  rw [String.toList_append, String.toList_ofList, String.toList_ofList]
  simp [Http.joined, usersSegments]

theorem isPlain_userSegments : ∀ segment ∈ userSegments userId, ∀ c ∈ segment, IsPlain c := by
  have hfixed : usersSegments.all fun segment ↦ segment.all Text.Percent.isUnreserved := by decide
  have hescaped : ∀ c ∈ Text.Percent.encode userId.toList, IsPlain c :=
    fun c hc ↦ Text.Percent.isPlain_of_mem_encode hc
  intro segment hsegment
  rcases List.mem_append.1 hsegment with hsegment | hsegment
  · exact fun c hc ↦ .inl (List.all_eq_true.1 (List.all_eq_true.1 hfixed segment hsegment) c hc)
  · rwa [List.mem_singleton.1 hsegment]

/-- **Only the dots lead away from the place of a user.** -/
theorem pathOf_resolve_userSegments :
    Http.pathOf (Http.resolve [] (userSegments userId)) = .segments (userPlace userId) := by
  by_cases hdot : userId = "."
  · subst hdot
    decide
  by_cases hdots : userId = ".."
  · subst hdots
    decide
  -- any other id is escaped to a segment that no reader takes for a dot
  have hsingle : ¬Http.isSingleDot (Text.Percent.encode userId.toList) := fun h ↦
    hdot (String.toList_inj.1 (Http.isSingleDot_encode_iff.1 h))
  have hdouble : ¬Http.isDoubleDot (Text.Percent.encode userId.toList) := fun h ↦
    hdots (String.toList_inj.1 (Http.isDoubleDot_encode_iff.1 h))
  have hkept : Http.resolve [] (userSegments userId) = userSegments userId := by
    rw [userSegments, Http.resolve_append (by decide) (List.cons_ne_nil _ _), Http.resolve,
      if_neg hdouble, if_neg hsingle]
    rfl
  rw [hkept, Http.pathOf_eq isPlain_userSegments, userPlace, if_neg hdot, if_neg hdots]
  rfl

/-- **The address of a user** is at the place of the user under the origin. -/
theorem parse?_userAddress (hg : IsOrigin scheme authority g.baseAddress) :
    Url.parse? (g.userAddress userId) =
      (authority? scheme authority).map fun (a, _) ↦
        .under scheme a (.segments (userPlace userId)) := by
  have hne : userSegments userId ≠ [] := List.cons_ne_nil _ _
  rw [userAddress_eq, Url.parse?_segments hg hne isPlain_userSegments, pathOf_resolve_userSegments]

/-- **No two users have the same place.** -/
theorem userPlace_injective (h : userId ≠ "") (h' : other ≠ "")
    (hplace : userPlace userId = userPlace other) : userId = other := by
  have hescaped := escaped_ne_empty h
  have hescaped' := escaped_ne_empty h'
  simp only [userPlace] at hplace
  -- the places of the dots differ in length, and both end in a segment that no user has
  split_ifs at hplace with hdot hdot' hdots' hdots hdot' hdots' hdot' hdots'
  · exact hdot.trans hdot'.symm
  · simp at hplace
  · exact absurd (by simpa using hplace.symm) hescaped'
  · simp at hplace
  · exact hdots.trans hdots'.symm
  · simp at hplace
  · exact absurd (by simpa using hplace) hescaped
  · simp at hplace
  · exact escaped_injective (by simpa using hplace)

/-! ### Requests about a user -/

/-- **A request about a user**: it is sent to fetch the account or to change its metadata. -/
inductive AsksAbout (g : Gateway) (userId : String) (request : Request) : Prop
  | fetching {token d e} (h : Conducts (g.getUser token userId).run d e)
    (hsent : request ∈ Procedure.sent d)
  | changing {token metadata d e} (h : Conducts (g.patchMetadata token userId metadata).run d e)
    (hsent : request ∈ Procedure.sent d)

/-- It is built for the address of the user. -/
theorem AsksAbout.exists_build (h : g.AsksAbout userId request) :
    ∃ method token body,
      Request.build method (g.userAddress userId) (some token) body = .ok request := by
  cases h with
  | fetching h hsent =>
    obtain ⟨es, hs, -⟩ := sendRun_of_getUser h
    exact ⟨_, _, _, hs.mem_sent_iff.1 hsent⟩
  | changing h hsent =>
    obtain ⟨es, hs, -⟩ := sendRun_of_patchMetadata h
    exact ⟨_, _, _, hs.mem_sent_iff.1 hsent⟩

/-- **A request about a user goes to the place of the user.** -/
theorem AsksAbout.isAt (h : g.AsksAbout userId request)
    (hg : IsOrigin scheme authority g.baseAddress) :
    request.url.IsAt scheme authority (.segments (userPlace userId)) := by
  obtain ⟨method, token, body, hbuild⟩ := h.exists_build
  refine Request.isAt_of_build hbuild fun u hu ↦ ?_
  rw [parse?_userAddress hg] at hu
  obtain ⟨⟨a, leftover⟩, ha, rfl⟩ := Option.map_eq_some_iff.1 hu
  exact Url.isAt_under ha

/-- What can be built is sent, even if it is never answered. -/
theorem conducts_send_of_build {method : Http.Method} {address token : String}
    {body : Option Json.Value} {α : Type} {next : String → Step α}
    (h : Request.build method address (some token) body = .ok request) :
    Conducts (send method address token body >>= next).run [⟨.exchange request, .never⟩]
      .stalled := by
  rw [send, Procedure.exchange, h]
  exact .broken _ .never

theorem asksAbout_of_get {token : String}
    (h : Request.build .get (g.userAddress userId) (some token) none = .ok request) :
    g.AsksAbout userId request :=
  .fetching (conducts_send_of_build h) (Procedure.mem_sent_iff.2 ⟨_, List.mem_singleton_self _⟩)

theorem asksAbout_of_patch {token : String} (metadata : Metadata)
    (h : Request.build .patch (g.userAddress userId) (some token) (some (patchBody metadata)) =
      .ok request) : g.AsksAbout userId request := by
  have hconducts : Conducts (g.patchMetadata token userId metadata).run
      [⟨.exchange request, .never⟩] .stalled := conducts_send_of_build h
  exact .changing hconducts (Procedure.mem_sent_iff.2 ⟨_, List.mem_singleton_self _⟩)

/-- **Both requests about a user are sent**, if requests can be sent to the address at all. -/
theorem exists_asksAbout (hg : IsOrigin scheme authority g.baseAddress) {a : Authority}
    (ha : authority? scheme authority = some (a, [])) (huser : a.user = none) {token : String}
    (htoken : token.toList.all Http.isHeaderChar)
    (hreach : (Url.under scheme a (.segments (userPlace userId))).isReachable) :
    (∃ request, g.AsksAbout userId request ∧ request.method = .get) ∧
      ∃ request, g.AsksAbout userId request ∧ request.method = .patch := by
  have hread : Url.parse? (g.userAddress userId) =
      some (.under scheme a (.segments (userPlace userId))) := by
    rw [parse?_userAddress hg, ha]
    rfl
  constructor
  · obtain ⟨request, hbuild, hmethod⟩ := Request.exists_build hread huser hreach htoken
    exact ⟨request, asksAbout_of_get hbuild, hmethod⟩
  · obtain ⟨request, hbuild, hmethod⟩ := Request.exists_build hread huser hreach htoken
    exact ⟨request, asksAbout_of_patch .empty hbuild, hmethod⟩

/-! ### What an id is worth -/

/-- **The segment names the user**: it is not empty, nothing in it has a meaning between segments,
and read back it is the id. -/
structure Names (segment userId : String) : Prop where
  ne_empty : segment ≠ ""
  plain : ∀ c ∈ segment.toList, IsPlain c
  decoded : Text.Utf8.decode? (Text.Percent.decode segment.toList) = some userId.toList

theorem names_escaped (h : userId ≠ "") : Names (escaped userId) userId where
  ne_empty := escaped_ne_empty h
  plain := by
    rw [toList_escaped]
    exact fun c hc ↦ Text.Percent.isPlain_of_mem_encode hc
  decoded := by rw [toList_escaped, Text.Percent.decode?_decode_encode]

/-- **What an id of a user is worth in an address.** Requests about a user are sent, if the address
is one that requests can be sent to. Each goes to the segment below the users that names the user,
unless the id is one of the two dots: these lead to the list of the users and to the place above.
Whatever the id is, there is nothing behind the path, and the path is that of no other user. -/
theorem asksAbout_addresses (hg : IsOrigin scheme authority g.baseAddress) (hid : userId ≠ "") :
    (∀ (a : Authority) (token : String), authority? scheme authority = some (a, []) →
      a.user = none → token.toList.all Http.isHeaderChar →
        (Url.under scheme a (.segments (userPlace userId))).isReachable →
          (∃ request, g.AsksAbout userId request ∧ request.method = .get) ∧
            ∃ request, g.AsksAbout userId request ∧ request.method = .patch) ∧
    ∀ request, g.AsksAbout userId request →
      (userId ≠ "." → userId ≠ ".." → ∃ segment, Names segment userId ∧
        request.url.IsAt scheme authority (.segments ["api", "v2", "users", segment])) ∧
      (userId = "." → request.url.IsAt scheme authority (.segments ["api", "v2", "users", ""])) ∧
      (userId = ".." → request.url.IsAt scheme authority (.segments ["api", "v2", ""])) ∧
      ∀ other request', other ≠ "" → g.AsksAbout other request' →
        request'.url.path = request.url.path → other = userId := by
  refine ⟨fun a token ha huser htoken hreach ↦ exists_asksAbout hg ha huser htoken hreach,
    fun request h ↦ ?_⟩
  have hat := h.isAt hg
  refine ⟨fun hdot hdots ↦ ?_, ?_, ?_, fun other request' hother h' hpath ↦ ?_⟩
  · rw [userPlace, if_neg hdot, if_neg hdots] at hat
    exact ⟨_, names_escaped hid, hat⟩
  · rintro rfl
    exact hat
  · rintro rfl
    exact hat
  · rw [(h'.isAt hg).path_eq, hat.path_eq] at hpath
    exact userPlace_injective hother hid (Path.segments.inj hpath)

/-! ### A directory to ask -/

namespace Sample

/-- A host to ask. -/
def host : Authority := ⟨none, "tenant.test", none⟩

/-- The directory at that host. -/
def gateway : Gateway := ⟨"http://tenant.test"⟩

theorem isOrigin_gateway : IsOrigin .http "tenant.test".toList gateway.baseAddress where
  web := .inl rfl
  spelled := ⟨"http".toList, rfl, rfl⟩
  nonempty := by decide
  fits := by
    have hfits : "tenant.test".toList.all fun c ↦
        decide (c ∉ ['/', '\\', '?', '#', '\t', '\n', '\r']) := by decide
    exact fun c hc ↦ of_decide_eq_true (List.all_eq_true.1 hfits c hc)

/-- A user whose id needs an escape is asked about below the users. -/
theorem asksAbout_escaped :
    ∃ request, gateway.AsksAbout "auth0|65a1" request ∧ ∃ segment, Names segment "auth0|65a1" ∧
      request.url.IsAt .http "tenant.test".toList (.segments ["api", "v2", "users", segment]) := by
  have hid : "auth0|65a1" ≠ "" := by decide
  obtain ⟨hsent, haddressed⟩ := asksAbout_addresses isOrigin_gateway hid
  obtain ⟨⟨request, h, -⟩, -⟩ := hsent host "t" rfl rfl rfl (by decide +kernel)
  exact ⟨request, h, (haddressed request h).1 (by decide) (by decide)⟩

end Sample

/-- **Not every user is addressed by a segment**: the user `.` is not. -/
theorem not_asksAbout_user :
    ¬∀ (g : Gateway) (scheme : Scheme) (authority : List Char) (userId : String)
      (request : Request), IsOrigin scheme authority g.baseAddress → ¬Text.isBlankText userId →
        g.AsksAbout userId request → ∃ segment, Names segment userId ∧
          request.url.IsAt scheme authority (.segments ["api", "v2", "users", segment]) := by
  intro hnames
  have hreach : (Url.under .http Sample.host (.segments (userPlace "."))).isReachable := by
    decide +kernel
  have htoken : "t".toList.all Http.isHeaderChar := by decide
  obtain ⟨⟨request, h, -⟩, -⟩ :=
    exists_asksAbout Sample.isOrigin_gateway rfl rfl htoken hreach
  obtain ⟨segment, hsegment, hat⟩ := hnames _ _ _ _ _ Sample.isOrigin_gateway (by decide) h
  have hpath : userPlace "." = ["api", "v2", "users", segment] :=
    Path.segments.inj ((h.isAt Sample.isOrigin_gateway).path_eq.symm.trans hat.path_eq)
  exact hsegment.ne_empty (by simpa [userPlace] using hpath.symm)

end Gateway

end AccountDirectory
