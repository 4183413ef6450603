import AccountDirectory.Proofs.CommandLine.Update
import AccountDirectory.Proofs.Instance.Provenance

/-!
# What is shown of a user

A user is shown as one of three texts (`forms`): the two layouts of the JSON form, and the output of a
command. `users_shownWithoutToken` says what such a text is worth. It is read as the user without the
token, so nothing else of the user is lost; it has no member for a token; and it is the same text
whatever the token is.

**What a command puts out.** The metadata of a user has to be nested less deep than a reader allows.
A user that a command results in is such a one, because the metadata was read from an answer of the
directory (`fits_of_command`). So every output is read as the user that it is for.
-/

namespace AccountDirectory.CommandLine

open Json (Document)
open Json.Document (ofFields)
open Program (Conducts)

variable {i : Instance} {u v : User} {text : String} {d : List Procedure.Exchange}

/-! ### Texts for a user -/

/-- The texts that a user is shown as. -/
def forms (u : User) : List String := [u.toJson.compact, u.toJson.pretty, report u]

/-- **The text shows the user without the token**: it is read as that, and has no member for a
token. -/
structure Shows (text : String) (u : User) : Prop where
  read : (Document.ofText? text).bind (User.ofDocument? Json.nestingLimit) = some u.withoutToken
  hidden : ∃ d, Document.ofText? text = some d ∧ d.member? "token" = none

/-- Each of the texts spells the JSON form. -/
theorem ofText?_of_mem_forms (hk : u.toJson.keepsDoubles) (h : text ∈ forms u) :
    Document.ofText? text = some u.toJson.toDocument := by
  have hpretty : Document.ofText? (u.toJson.pretty ++ "") = some u.toJson.toDocument :=
    Json.Value.ofText?_pretty hk rfl
  rw [String.append_empty] at hpretty
  simp only [forms, List.mem_cons, List.not_mem_nil, or_false] at h
  rcases h with rfl | rfl | rfl
  · exact Json.Value.ofText?_compact hk
  · exact hpretty
  · exact Json.Value.ofText?_pretty hk (by decide)

/-- **A user that fits is shown without the token.** -/
theorem shows_of_mem_forms (hu : u.Fits Json.nestingLimit) (hk : u.toJson.keepsDoubles)
    (h : text ∈ forms u) : Shows text u := by
  have htext := ofText?_of_mem_forms hk h
  refine ⟨?_, _, htext, u.member?_token⟩
  rw [htext]
  exact hu.ofDocument?_toJson hk

/-- **The token is in none of the texts.** -/
theorem forms_eq_of_withoutToken_eq (h : u.withoutToken = v.withoutToken) : forms u = forms v := by
  rw [forms, forms, report, report, User.toJson_eq_of_withoutToken_eq h]

/-! ### Users that commands result in -/

/-- A user that a call of a client returns fits the reader that it was read with. -/
theorem fits_of_clientCall {c : Service.Call}
    (h : Conducts (clientCall i c) d (.finished (.ok u))) : u.Fits Json.nestingLimit := by
  obtain ⟨e, hcall, he⟩ := conducts_clientCall h
  rcases e with (failure | user) | - | -
  · cases he
  · cases he
    exact Instance.fits_of_ok hcall
  · cases he
  · cases he

/-- **A user that a command results in fits.** -/
theorem fits_of_command {command : Command}
    (h : Conducts (command.program i) d (.finished (.ok u))) : u.Fits Json.nestingLimit := by
  cases command with
  | lookup | get | search => exact fits_of_clientCall h
  | resolve input =>
    obtain ⟨outcome, d₁, d₂, -, -, hread⟩ := Program.conducts_bind_finished_iff.1 h
    cases outcome with
    | error failure => cases (Program.conducts_done_iff.1 hread).2
    | ok looked =>
      by_cases hid : looked.userId = ""
      · simp only [if_pos hid] at hread
        exact fits_of_clientCall hread
      · simp only [if_neg hid] at hread
        exact fits_of_clientCall hread
  | update token metadata =>
    rw [Command.program] at h
    split at h
    · cases (Program.conducts_done_iff.1 h).2
    · exact fits_of_clientCall h

/-- **Users are shown without the token, and otherwise as they are.** -/
theorem users_shownWithoutToken :
    (∀ u : User, (∀ m, u.metadata = some m → m.toJson.toDocument.depth ≤ 126) →
      u.toJson.keepsDoubles → ∀ text ∈ forms u, Shows text u) ∧
    (∀ u v : User, u.withoutToken = v.withoutToken → forms u = forms v) ∧
    (∀ (text : String) (u : User),
      (Document.ofText? text).bind (User.ofDocument? Json.nestingLimit) = some u →
        u.token = none) ∧
    (∀ budget before after d,
      User.ofDocument? budget (ofFields (before ++ ("token", d) :: after)) =
        User.ofDocument? budget (ofFields (before ++ after))) ∧
    (∀ budget items, items.length ≤ User.fieldNames.length →
      User.ofDocument? budget (.list items) =
        User.ofDocument? budget (ofFields (User.fieldNames.zip items))) ∧
    ∀ (σ : Type) (i : Instance) (command : Command)
      (respond : σ → (op : Effect) → Program.Reply op.Answer × σ) (s : σ) (u : User),
      ((command.program i).run respond s).result? = some (.ok u) → u.toJson.keepsDoubles →
        Shows (report u) u ∧ ∀ v : User, v.withoutToken = u.withoutToken → report v = report u := by
  refine ⟨fun u hdepth hk text htext ↦ shows_of_mem_forms ⟨by decide, hdepth⟩ hk htext,
    fun u v h ↦ forms_eq_of_withoutToken_eq h, fun text u h ↦ ?_,
    fun _ before after d ↦ User.ofDocument?_token before after d,
    fun _ items h ↦ User.ofDocument?_items h, fun σ i command respond s u hresult hk ↦ ⟨?_, ?_⟩⟩
  · obtain ⟨d, -, hd⟩ := Option.bind_eq_some_iff.1 h
    exact User.token_of_ofDocument? hd
  · have hfits := fits_of_command (Program.conducts_of_result? respond hresult)
    exact shows_of_mem_forms hfits hk (by simp [forms])
  · intro v hv
    rw [report, report, User.toJson_eq_of_withoutToken_eq hv]

/-! ### A user with a token -/

namespace Sample

/-- One and a half. -/
def double : Double := ⟨false, 0x18000000000000, -52, by decide⟩

/-- A user with a token, whose texts have to be escaped and whose metadata has a double. -/
def secretive : User :=
  { userId := "auth0|65a1", username := "a\"b\n", token := some "secret"
    metadata := some ⟨[("k", .list [.number (.double double), .object [("é", .null)]])], rfl⟩ }

end Sample

/-- It is shown without the token, and so is what a lookup results in. -/
theorem secretive_shown :
    (∀ text ∈ forms Sample.secretive, Shows text Sample.secretive) ∧
      ∃ u, ((Command.program Sample.tenant (.lookup "ann")).run World.respond
        AccountDirectory.Sample.world).result? = some (.ok u) ∧ Shows (report u) u := by
  obtain ⟨hshown, -, -, -, -, hcommand⟩ := users_shownWithoutToken
  refine ⟨hshown _ ?_ (by decide +kernel), ?_⟩
  · rintro m ⟨⟩
    decide +kernel
  · have hlookup : ((Command.program Sample.tenant (.lookup "ann")).run World.respond
        AccountDirectory.Sample.world).result? = some (.ok { username := "ann" }) := by rfl
    exact ⟨_, hlookup, (hcommand _ _ _ _ _ _ hlookup rfl).1⟩

end AccountDirectory.CommandLine
