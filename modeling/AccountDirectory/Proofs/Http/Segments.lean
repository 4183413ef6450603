import AccountDirectory.Http.Exchange
import AccountDirectory.Proofs.Http.WebAddress

/-!
# Segments of a path

A path that is put together from plain segments is cut into the same segments again
(`pieces_joined`), and nothing in them is escaped once more. What remains is the resolution of dots:
`parse?_segments` says that an address under an origin has the path that the segments resolve to.

Percent escapes do not save a text from that resolution. An escape of a dot counts as a dot, and
`Percent.encode` does not even write one, because a dot is unreserved. So exactly two escaped texts
are dots: that of `.` (`isSingleDot_encode_iff`) and that of `..` (`isDoubleDot_encode_iff`).
-/

namespace AccountDirectory.Http

open Text (asciiLower)
open Text.Percent (IsPlain decode encode)

/-- A path of these segments, each with a slash before it. -/
def joined (segments : List (List Char)) : List Char := segments.flatMap ('/' :: ·)

variable {scheme : Scheme} {authority : List Char} {s : String}
variable {segments front rest place : List (List Char)}

/-! ### Put together and cut again -/

theorem isPlainPath_joined (hne : segments ≠ [])
    (hplain : ∀ segment ∈ segments, ∀ c ∈ segment, IsPlain c) : IsPlainPath (joined segments) where
  rooted := by
    obtain ⟨first, more, rfl⟩ := List.exists_cons_of_ne_nil hne
    rfl
  plain := by
    intro c hc
    obtain ⟨segment, hsegment, hmem⟩ := List.mem_flatMap.1 hc
    rcases List.mem_cons.1 hmem with rfl | hmem
    · exact .inr rfl
    · exact .inl (hplain segment hsegment c hmem)

theorem pieces_joined (hne : segments ≠ []) (h : ∀ segment ∈ segments, '/' ∉ segment) :
    Text.pieces '/' (joined segments).tail = segments := by
  induction segments with
  | nil => exact absurd rfl hne
  | cons first more ih =>
    obtain ⟨hfirst, hmore⟩ := List.forall_mem_cons.1 h
    -- behind the first segment stands the path of the others, with its slash
    rw [joined, List.flatMap_cons, List.cons_append, List.tail_cons, ← joined]
    cases more with
    | nil => rw [joined, List.flatMap_nil, List.append_nil, Text.pieces_eq_singleton hfirst]
    | cons second later =>
      exact (Text.pieces_append_cons hfirst).trans
        (congrArg (first :: ·) (ih (List.cons_ne_nil _ _) hmore))

/-- Plain segments have no slashes of either kind, so the path is cut where it was put together. -/
theorem resolved_joined (hne : segments ≠ [])
    (hplain : ∀ segment ∈ segments, ∀ c ∈ segment, IsPlain c) :
    resolved scheme (joined segments) = resolve [] segments := by
  have hpath := isPlainPath_joined hne hplain
  have hkept : (joined segments).map (fun c ↦ if isSlash scheme c then '/' else c) =
      joined segments := by
    refine (List.map_congr_left fun c hc ↦ ?_).trans (List.map_id _)
    split_ifs with hslash
    · exact ((hpath.isSlash_iff hc).1 hslash).symm
    · rfl
  have hslashes : ∀ segment ∈ segments, '/' ∉ segment := fun segment hsegment hmem ↦
    (hplain segment hsegment _ hmem).ne (by decide) (by decide) rfl
  rw [resolved, hkept, hpath.rooted]
  exact congrArg (resolve []) (pieces_joined hne hslashes)

/-- A plain segment is not escaped again. -/
theorem pathOf_eq (hplain : ∀ segment ∈ segments, ∀ c ∈ segment, IsPlain c) :
    pathOf segments = .segments (segments.map String.ofList) := by
  rw [pathOf]
  refine congrArg Path.segments (List.map_congr_left fun segment hsegment ↦ ?_)
  rw [Text.Percent.escape_eq_self]
  intro c hc
  have hc := hplain segment hsegment c hc
  refine ⟨Nat.le_trans (by decide) hc.toNat.1, hc.toNat.2, fun hmem ↦ ?_⟩
  have hnone : pathEscapes.all fun x ↦ !Text.Percent.isUnreserved x && x != '%' := by decide
  have hescape : Text.Percent.isUnreserved c = false ∧ c ≠ '%' := by
    simpa using List.all_eq_true.1 hnone c hmem
  exact hc.ne hescape.1 hescape.2 rfl

/-! ### Dots -/

/-- Segments that are no dots stay where they are. -/
theorem resolve_append (h : ∀ segment ∈ front, ¬isSingleDot segment ∧ ¬isDoubleDot segment)
    (hne : rest ≠ []) : resolve place (front ++ rest) = resolve (front.reverse ++ place) rest := by
  induction front generalizing place with
  | nil => rfl
  | cons first more ih =>
    obtain ⟨hfirst, hmore⟩ := List.forall_mem_cons.1 h
    -- something stands behind, so this is not the segment that `resolve` treats as the last one
    obtain ⟨second, later, hlater⟩ : ∃ second later, more ++ rest = second :: later :=
      List.exists_cons_of_ne_nil (List.append_ne_nil_of_right_ne_nil more hne)
    rw [List.cons_append, hlater, resolve, if_neg hfirst.2, if_neg hfirst.1, ← hlater, ih hmore,
      List.reverse_cons, List.append_assoc, List.singleton_append]
    exact fun h ↦ List.cons_ne_nil _ _ h

/-- A dot and the escape of a dot, in letters of either size, are read as a dot. -/
theorem exists_decode_eq_cons {cs after : List Char}
    (h : asciiLower cs = '.' :: after ∨ asciiLower cs = '%' :: '2' :: 'e' :: after) :
    ∃ later, asciiLower later = after ∧ decode cs = 46 :: decode later := by
  rcases h with h | h
  · obtain ⟨c, later, rfl, hc, hlater⟩ := List.map_eq_cons_iff.1 h
    obtain rfl := Text.eq_of_toLower_eq hc (by decide)
    exact ⟨later, hlater, Text.Percent.decode_cons_of_ne (by decide)⟩
  · obtain ⟨a, _, rfl, ha, h⟩ := List.map_eq_cons_iff.1 h
    obtain ⟨b, _, rfl, hb, h⟩ := List.map_eq_cons_iff.1 h
    obtain ⟨c, later, rfl, hc, hlater⟩ := List.map_eq_cons_iff.1 h
    obtain rfl := Text.eq_of_toLower_eq ha (by decide)
    obtain rfl := Text.eq_of_toLower_eq hb (by decide)
    refine ⟨later, hlater, ?_⟩
    obtain rfl | ⟨-, hshift⟩ := Text.eq_or_isUpper_of_toLower_eq hc
    · rfl
    · have hcapital : c = 'E' := Char.toNat_inj.1 (Nat.add_right_cancel hshift)
      subst hcapital
      rfl

theorem decode_of_isSingleDot {cs : List Char} (h : isSingleDot cs) : decode cs = [46] := by
  have hcs : asciiLower cs = ['.'] ∨ asciiLower cs = ['%', '2', 'e'] := by
    simpa [isSingleDot] using h
  obtain ⟨later, hlater, hdecode⟩ := exists_decode_eq_cons hcs
  obtain rfl := List.map_eq_nil_iff.1 hlater
  exact hdecode

theorem decode_of_isDoubleDot {cs : List Char} (h : isDoubleDot cs) : decode cs = [46, 46] := by
  have hcs : ∃ after, (asciiLower cs = '.' :: after ∨ asciiLower cs = '%' :: '2' :: 'e' :: after) ∧
      (after = ['.'] ∨ after = ['%', '2', 'e']) := by
    have hall : asciiLower cs = ['.', '.'] ∨ asciiLower cs = ['.', '%', '2', 'e'] ∨
        asciiLower cs = ['%', '2', 'e', '.'] ∨ asciiLower cs = ['%', '2', 'e', '%', '2', 'e'] := by
      simpa [isDoubleDot] using h
    rcases hall with h | h | h | h
    · exact ⟨_, .inl h, .inl rfl⟩
    · exact ⟨_, .inl h, .inr rfl⟩
    · exact ⟨_, .inr h, .inl rfl⟩
    · exact ⟨_, .inr h, .inr rfl⟩
  obtain ⟨after, hcs, hafter⟩ := hcs
  obtain ⟨second, hsecond, hdecode⟩ := exists_decode_eq_cons hcs
  have hdot : isSingleDot second := by
    rw [isSingleDot, hsecond]
    rcases hafter with rfl | rfl <;> decide
  rw [hdecode, decode_of_isSingleDot hdot]

theorem isSingleDot_encode_iff {cs : List Char} : isSingleDot (encode cs) ↔ cs = ['.'] := by
  constructor
  · intro h
    have hdecode := decode_of_isSingleDot h
    rw [Text.Percent.decode_encode] at hdecode
    exact Text.Utf8.encode_injective hdecode
  · rintro rfl
    decide

theorem isDoubleDot_encode_iff {cs : List Char} : isDoubleDot (encode cs) ↔ cs = ['.', '.'] := by
  constructor
  · intro h
    have hdecode := decode_of_isDoubleDot h
    rw [Text.Percent.decode_encode] at hdecode
    exact Text.Utf8.encode_injective hdecode
  · rintro rfl
    decide

/-! ### The whole address -/

/-- The address of these segments at an authority, with nothing behind them. -/
def Url.under (scheme : Scheme) (a : Authority) (path : Path) : Url :=
  ⟨scheme, some a, path, none, none⟩

/-- **An address of segments under an origin** has the path that the segments resolve to. -/
theorem Url.parse?_segments (h : IsOrigin scheme authority s) (hne : segments ≠ [])
    (hplain : ∀ segment ∈ segments, ∀ c ∈ segment, IsPlain c) :
    parse? (s ++ String.ofList (joined segments)) =
      (authority? scheme authority).map fun (a, _) ↦
        .under scheme a (pathOf (resolve [] segments)) := by
  rw [parse?_under_origin h (isPlainPath_joined hne hplain), resolved_joined hne hplain]
  rfl

/-- **An address of segments with a query** under an origin has both. -/
theorem Url.parse?_segments_query (h : IsOrigin scheme authority s) (hne : segments ≠ [])
    (hplain : ∀ segment ∈ segments, ∀ c ∈ segment, IsPlain c) {query : List Char}
    (hquery : ∀ c ∈ query, IsQueryChar c) :
    parse? (s ++ String.ofList (joined segments ++ '?' :: query)) =
      (authority? scheme authority).map fun (a, _) ↦
        { under scheme a (pathOf (resolve [] segments)) with
          query := some (String.ofList query) } := by
  rw [parse?_under_origin_query h (isPlainPath_joined hne hplain) hquery,
    resolved_joined hne hplain]
  rfl

/-- **The address is at this path of an origin**, with nothing behind it. -/
structure Url.IsAt (u : Url) (scheme : Scheme) (authority : List Char) (path : Path) : Prop where
  scheme_eq : u.scheme = scheme
  host_eq : u.authority.map Authority.hostText =
    (authority? scheme authority).map fun (a, _) ↦ a.hostText
  path_eq : u.path = path
  query_eq : u.query = none
  fragment_eq : u.fragment = none

theorem Url.isAt_under {a : Authority} {leftover : List Char} {path : Path}
    (h : authority? scheme authority = some (a, leftover)) :
    (under scheme a path).IsAt scheme authority path where
  scheme_eq := rfl
  host_eq := by
    rw [h]
    rfl
  path_eq := rfl
  query_eq := rfl
  fragment_eq := rfl

/-- The user of an address is no part of where it is. -/
theorem Url.IsAt.withoutUser {u : Url} {path : Path} (h : u.IsAt scheme authority path) :
    u.withoutUser.IsAt scheme authority path where
  scheme_eq := h.scheme_eq
  host_eq := by
    rw [← h.host_eq, Url.withoutUser, Option.map_map]
    rfl
  path_eq := h.path_eq
  query_eq := h.query_eq
  fragment_eq := h.fragment_eq

/-! ### Requests -/

namespace Request

variable {method : Method} {address : String} {bearer : Option String} {body : Option Json.Value}
  {request : Request}

/-- A request is sent to the address that was read; the user may be taken out of it. -/
theorem exists_of_build (h : build method address bearer body = .ok request) :
    ∃ u, Url.parse? address = some u ∧ (request.url = u ∨ request.url = u.withoutUser) := by
  rw [build] at h
  split at h
  · cases h
  next u hu =>
  dsimp only at h
  split_ifs at h
  · cases h
    exact ⟨u, hu, .inr rfl⟩
  · cases h
    exact ⟨u, hu, .inl rfl⟩

theorem isAt_of_build {path : Path} (h : build method address bearer body = .ok request)
    (hread : ∀ u, Url.parse? address = some u → u.IsAt scheme authority path) :
    request.url.IsAt scheme authority path := by
  obtain ⟨u, hu, hurl | hurl⟩ := exists_of_build h
  · exact hurl ▸ hread u hu
  · exact hurl ▸ (hread u hu).withoutUser

/-- A request can be built for an address without a user that requests can be sent to, if a header
can carry the token. -/
theorem exists_build {u : Url} (hu : Url.parse? address = some u)
    (huser : u.authority.bind (·.user) = none) (hreach : u.isReachable) {token : String}
    (htoken : token.toList.all isHeaderChar) :
    ∃ request, build method address (some token) body = .ok request ∧
      request.method = method := by
  refine ⟨⟨method, u, none, some token, body⟩, ?_, rfl⟩
  rw [build, hu]
  simp [huser, hreach, htoken]

end Request

end AccountDirectory.Http
