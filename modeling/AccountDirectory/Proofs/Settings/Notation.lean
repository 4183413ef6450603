import AccountDirectory.Proofs.Settings.Quotes
import AccountDirectory.Proofs.Settings.Tables
import AccountDirectory.Proofs.Text.Blank

/-!
# The notation of values

The value of a variable is a small notation: constants, tables, lists, quoted texts, single
characters and bare words. `Denotes` says which texts are the notation of which value, as texts are
put together, without a reader. The reader finds a value in front of what is left of the text
(`exists_of_read`), and it finds every value that is denoted and followed by the end or by what may
follow an item (`read_of_denotes`), for it never runs out of fuel.

So the value of a variable is what its text is the notation of, and the text itself if it is no
notation (`ofText_eq_iff`). Only a plain word is the notation of itself (`denotes_self_iff`).
-/

namespace AccountDirectory.Setting.Variable

/-! ### The notation -/

/-- **A bare word** has no separator, and begins as no other value does. -/
structure IsWord (word : List Char) : Prop where
  head : ∀ c ∈ word.head?, ¬isSpace c ∧ c ≠ '"' ∧ c ≠ '\''
  not_true : ¬"true".toList <+: word
  not_false : ¬"false".toList <+: word
  plain : ∀ c ∈ word, ¬isSeparator c

mutual

/-- **The text is the notation of the value**, with the spaces around it. -/
inductive Denotes : List Char → Setting → Prop
  /-- A word goes on to the end of the text. -/
  | word {before word} (hbefore : AreSpaces before) (hword : IsWord word) :
    Denotes (before ++ word) (ofWord word)
  | marked {before text after s} (hbefore : AreSpaces before) (hafter : AreSpaces after)
    (h : Marked text s) : Denotes (before ++ (text ++ after)) s

/-- The text is the notation of a value that shows where it ends. -/
inductive Marked : List Char → Setting → Prop
  | true : Marked "true".toList (.bool true)
  | false : Marked "false".toList (.bool false)
  | table {text entries} (h : DenotesEntries text entries) :
    Marked ('\x7b' :: text) (.table (tableOf entries))
  | list {text items} (h : DenotesItems text items) : Marked ('[' :: text) (.list items)
  | quoted {text chars} (h : quoted text = some (chars, [])) :
    Marked ('"' :: text) (.text (String.ofList chars))
  | single (c : Char) : Marked ['\'', c, '\''] (.text (String.singleton c))

/-- The text is the items of a list, with the bracket behind them. -/
inductive DenotesItems : List Char → List Setting → Prop
  | nil : DenotesItems [']'] []
  | last {item s} (hne : item ≠ []) (h : Denotes item s) : DenotesItems (item ++ [']']) [s]
  | cons {item s text items} (h : Denotes item s) (hitems : DenotesItems text items) :
    DenotesItems (item ++ ',' :: text) (s :: items)

/-- The text is the entries of a table, with the brace behind them. -/
inductive DenotesEntries : List Char → List (String × Setting) → Prop
  | nil : DenotesEntries ['\x7d'] []
  | last {front name item s} (hkey : key front = some (name, [])) (h : Denotes item s) :
    DenotesEntries (front ++ (item ++ ['\x7d'])) [(name, s)]
  | cons {front name item s text entries} (hkey : key front = some (name, []))
    (h : Denotes item s) (hentries : DenotesEntries text entries) :
    DenotesEntries (front ++ (item ++ ',' :: text)) ((name, s) :: entries)

end

variable {fuel : Nat} {cs rest text tail chars : List Char} {s : Setting}

/-! ### What is read is denoted -/

theorem exists_of_marked (h : Marked text s) (hcs : skipSpace cs = text ++ rest) :
    ∃ text, cs = text ++ skipSpace rest ∧ Denotes text s := by
  obtain ⟨before, hbefore, hcs'⟩ := exists_spaces cs
  obtain ⟨after, hafter, hrest⟩ := exists_spaces rest
  refine ⟨before ++ (text ++ after), ?_, .marked hbefore hafter h⟩
  rw [List.append_assoc, List.append_assoc, ← hrest, ← hcs, ← hcs']

/-- What is read as a value is denoted, if what is read as items and entries is. -/
theorem exists_of_value
    (hitems : ∀ {cs ss rest}, items fuel cs = some (ss, rest) →
      ∃ text, cs = text ++ rest ∧ DenotesItems text ss)
    (hentries : ∀ {cs es rest}, entries fuel cs = some (es, rest) →
      ∃ text, cs = text ++ rest ∧ DenotesEntries text es)
    (h : value (fuel + 1) cs = some (s, rest)) : ∃ text, cs = text ++ rest ∧ Denotes text s := by
  rw [value] at h
  dsimp only at h
  split at h
  case h_1 r htrue =>
    obtain ⟨rfl, rfl⟩ := Prod.mk.inj (Option.some.inj h)
    exact exists_of_marked .true (after?_eq_some_iff.1 htrue)
  case h_2 r _ hfalse =>
    obtain ⟨rfl, rfl⟩ := Prod.mk.inj (Option.some.inj h)
    exact exists_of_marked .false (after?_eq_some_iff.1 hfalse)
  case h_3 r hbrace _ _ =>
    obtain ⟨read, hread, hrest⟩ := Option.bind_eq_some_iff.1 h
    obtain ⟨⟨es, r'⟩, hes, rfl⟩ := Option.map_eq_some_iff.1 hread
    obtain ⟨rfl, rfl⟩ := Prod.mk.inj (Option.some.inj hrest)
    obtain ⟨text, rfl, htext⟩ := hentries hes
    exact exists_of_marked (.table htext) hbrace
  case h_4 r hbracket _ _ =>
    obtain ⟨read, hread, hrest⟩ := Option.bind_eq_some_iff.1 h
    obtain ⟨⟨ss, r'⟩, hss, rfl⟩ := Option.map_eq_some_iff.1 hread
    obtain ⟨rfl, rfl⟩ := Prod.mk.inj (Option.some.inj hrest)
    obtain ⟨text, rfl, htext⟩ := hitems hss
    exact exists_of_marked (.list htext) hbracket
  case h_5 r hquote _ _ =>
    obtain ⟨read, hread, hrest⟩ := Option.bind_eq_some_iff.1 h
    obtain ⟨⟨chars, r'⟩, hchars, rfl⟩ := Option.map_eq_some_iff.1 hread
    obtain ⟨rfl, rfl⟩ := Prod.mk.inj (Option.some.inj hrest)
    obtain ⟨text, rfl, -, htext⟩ := exists_of_quoted hchars
    have hquoted := htext []
    rw [List.append_nil] at hquoted
    exact exists_of_marked (.quoted hquoted) hquote
  case h_6 c r hquote _ _ =>
    obtain ⟨rfl, rfl⟩ := Prod.mk.inj (Option.some.inj h)
    exact exists_of_marked (.single c) hquote
  case h_7 => cases h
  case h_8 htrue hfalse hbrace hbracket hquote hsingle hopen =>
    obtain ⟨rfl, rfl⟩ := Prod.mk.inj (Option.some.inj h)
    obtain ⟨before, hbefore, hcs⟩ := exists_spaces cs
    rw [drop_takeWhile]
    have hstop : skipSpace ((skipSpace cs).dropWhile (!isSeparator ·)) =
        (skipSpace cs).dropWhile (!isSeparator ·) := by
      refine skipSpace_eq_self fun c hc ↦ ?_
      have hseparator := not_of_mem_head?_dropWhile hc
      exact not_isSpace_of_isSeparator (by simpa using hseparator)
    refine ⟨before ++ (skipSpace cs).takeWhile (!isSeparator ·), ?_, .word hbefore ?_⟩
    · rw [hstop, List.append_assoc, List.takeWhile_append_dropWhile, ← hcs]
    · have hpart : (skipSpace cs).takeWhile (!isSeparator ·) <+: skipSpace cs :=
        List.takeWhile_prefix _
      refine ⟨fun c hc ↦ ?_, fun hword ↦ ?_, fun hword ↦ ?_, fun c hc ↦ ?_⟩
      · obtain ⟨word, hword⟩ := List.head?_eq_some_iff.1 hc
        rw [hword] at hpart
        obtain ⟨rest, hrest⟩ := hpart
        have hhead : c ∈ (cs.dropWhile isSpace).head? := by
          rw [← skipSpace, ← hrest]
          rfl
        exact ⟨not_of_mem_head?_dropWhile hhead, fun heq ↦ hquote (word ++ rest) (heq ▸ hrest.symm),
          fun heq ↦ hopen (word ++ rest) (heq ▸ hrest.symm)⟩
      · obtain ⟨rest, hrest⟩ := hword.trans hpart
        exact htrue rest (after?_eq_some_iff.2 hrest.symm)
      · obtain ⟨rest, hrest⟩ := hword.trans hpart
        exact hfalse rest (Option.eq_none_iff_forall_ne_some.2 htrue)
          (after?_eq_some_iff.2 hrest.symm)
      · simpa using List.all_eq_true.1 List.all_takeWhile c hc

theorem exists_of_items
    (hvalue : ∀ {cs s rest}, value fuel cs = some (s, rest) →
      ∃ text, cs = text ++ rest ∧ Denotes text s)
    (hitems : ∀ {cs ss rest}, items fuel cs = some (ss, rest) →
      ∃ text, cs = text ++ rest ∧ DenotesItems text ss)
    {ss : List Setting} (h : items (fuel + 1) cs = some (ss, rest)) :
    ∃ text, cs = text ++ rest ∧ DenotesItems text ss := by
  unfold items at h
  split at h
  · cases h
  · obtain ⟨rfl, rfl⟩ := Prod.mk.inj (Option.some.inj h)
    exact ⟨[']'], rfl, .nil⟩
  · next _ fuel' hfuel hopen =>
    obtain rfl := Nat.succ.inj hfuel
    obtain ⟨⟨s, middle⟩, hfirst, hmiddle⟩ := Option.bind_eq_some_iff.1 h
    obtain ⟨item, rfl, hitem⟩ := hvalue hfirst
    dsimp only at hmiddle
    split at hmiddle
    · obtain ⟨⟨later, rest⟩, hlater, hpair⟩ := Option.map_eq_some_iff.1 hmiddle
      obtain ⟨rfl, rfl⟩ := Prod.mk.inj hpair
      obtain ⟨text, rfl, htext⟩ := hitems hlater
      exact ⟨item ++ ',' :: text, by simp, .cons hitem htext⟩
    · obtain ⟨rfl, rfl⟩ := Prod.mk.inj (Option.some.inj hmiddle)
      refine ⟨item ++ [']'], by simp, .last (fun hnil ↦ ?_) hitem⟩
      exact hopen _ (by rw [hnil, List.nil_append])
    · cases hmiddle

theorem exists_of_entries
    (hvalue : ∀ {cs s rest}, value fuel cs = some (s, rest) →
      ∃ text, cs = text ++ rest ∧ Denotes text s)
    (hentries : ∀ {cs es rest}, entries fuel cs = some (es, rest) →
      ∃ text, cs = text ++ rest ∧ DenotesEntries text es)
    {es : List (String × Setting)} (h : entries (fuel + 1) cs = some (es, rest)) :
    ∃ text, cs = text ++ rest ∧ DenotesEntries text es := by
  unfold entries at h
  split at h
  · cases h
  · obtain ⟨rfl, rfl⟩ := Prod.mk.inj (Option.some.inj h)
    exact ⟨['\x7d'], rfl, .nil⟩
  · next _ fuel' hfuel hopen =>
    obtain rfl := Nat.succ.inj hfuel
    obtain ⟨⟨name, behind⟩, hname, hbehind⟩ := Option.bind_eq_some_iff.1 h
    obtain ⟨front, rfl, -, hfront⟩ := exists_of_key hname
    have hkey := hfront []
    rw [List.append_nil] at hkey
    obtain ⟨⟨s, middle⟩, hfirst, hmiddle⟩ := Option.bind_eq_some_iff.1 hbehind
    obtain ⟨item, rfl, hitem⟩ := hvalue hfirst
    dsimp only at hmiddle
    split at hmiddle
    · obtain ⟨⟨later, rest⟩, hlater, hpair⟩ := Option.map_eq_some_iff.1 hmiddle
      obtain ⟨rfl, rfl⟩ := Prod.mk.inj hpair
      obtain ⟨text, rfl, htext⟩ := hentries hlater
      exact ⟨front ++ (item ++ ',' :: text), by simp, .cons hkey hitem htext⟩
    · obtain ⟨rfl, rfl⟩ := Prod.mk.inj (Option.some.inj hmiddle)
      exact ⟨front ++ (item ++ ['\x7d']), by simp, .last hkey hitem⟩
    · cases hmiddle

/-- **What is read is denoted**, as far as it is read. -/
theorem exists_of_read (fuel : Nat) :
    (∀ {cs s rest}, value fuel cs = some (s, rest) → ∃ text, cs = text ++ rest ∧ Denotes text s) ∧
    (∀ {cs ss rest}, items fuel cs = some (ss, rest) →
      ∃ text, cs = text ++ rest ∧ DenotesItems text ss) ∧
    ∀ {cs es rest}, entries fuel cs = some (es, rest) →
      ∃ text, cs = text ++ rest ∧ DenotesEntries text es := by
  induction fuel with
  | zero =>
    refine ⟨fun h ↦ ?_, fun h ↦ ?_, fun h ↦ ?_⟩
    · rw [value] at h; cases h
    · rw [items] at h; cases h
    · rw [entries] at h; cases h
  | succ fuel ih =>
    obtain ⟨hvalue, hitems, hentries⟩ := ih
    exact ⟨exists_of_value hitems hentries, exists_of_items hvalue hitems,
      exists_of_entries hvalue hentries⟩

/-! ### What is denoted is read -/

/-- The character goes on with a list or a table, or ends it. -/
def IsClosing (c : Char) : Prop := c = ',' ∨ c = ']' ∨ c = '\x7d'

instance (c : Char) : Decidable (IsClosing c) := inferInstanceAs (Decidable (_ ∨ _))

theorem IsClosing.isSeparator {c : Char} (h : IsClosing c) : isSeparator c := by
  obtain rfl | rfl | rfl := h <;> rfl

/-- What may follow a value, if anything does. -/
def Closes (tail : List Char) : Prop := ∀ c ∈ tail.head?, IsClosing c

theorem Closes.isSeparator (h : Closes tail) : ∀ c ∈ tail.head?, isSeparator c :=
  fun c hc ↦ (h c hc).isSeparator

theorem closes_cons {c : Char} (h : IsClosing c) : Closes (c :: tail) :=
  fun _ hd ↦ Option.some.inj hd ▸ h

theorem Closes.skipSpace_append {after : List Char} (h : Closes tail) (hafter : AreSpaces after) :
    skipSpace (after ++ tail) = tail :=
  Variable.skipSpace_append hafter fun c hc ↦ not_isSpace_of_isSeparator (h.isSeparator c hc)

theorem after?_cons_of_ne {word : String} {w c : Char} (hword : w ∈ word.toList.head?)
    (hne : c ≠ w) : after? word (c :: cs) = none := by
  refine Option.eq_none_iff_forall_ne_some.2 fun rest hrest ↦ hne ?_
  obtain ⟨letters, hletters⟩ := List.head?_eq_some_iff.1 hword
  have hcs := after?_eq_some_iff.1 hrest
  rw [hletters] at hcs
  exact (List.cons.inj hcs).1

theorem after?_mark {c : Char} (hc : c ≠ 't' ∧ c ≠ 'f') :
    after? "true" (c :: cs) = none ∧ after? "false" (c :: cs) = none :=
  ⟨after?_cons_of_ne rfl hc.1, after?_cons_of_ne rfl hc.2⟩

/-- A word is not made longer by what may follow it. -/
theorem after?_append {word : List Char} {constant : String} (htail : Closes tail)
    (hletters : constant.toList.all (!isSeparator ·))
    (hconstant : ¬constant.toList <+: word) : after? constant (word ++ tail) = none := by
  refine Option.eq_none_iff_forall_ne_some.2 fun rest hrest ↦ hconstant ?_
  have hcs := after?_eq_some_iff.1 hrest
  obtain ⟨more, hmore, hrest⟩ | ⟨more, hmore, -⟩ := List.append_eq_append_iff.1 hcs
  · cases more with
    | nil => exact ⟨[], by rw [hmore, List.append_nil, List.append_nil]⟩
    | cons c more =>
      -- the word would go on with a separator
      have hc : c ∈ constant.toList := by simp [hmore]
      have hletter : ¬isSeparator c := by simpa using List.all_eq_true.1 hletters c hc
      exact absurd (htail.isSeparator c (by rw [hrest]; rfl)) hletter
  · exact ⟨more, hmore.symm⟩

theorem value_of_word {word : List Char} (hword : IsWord word) (htail : Closes tail)
    (hcs : skipSpace cs = word ++ tail) : value (fuel + 1) cs = some (ofWord word, tail) := by
  have htrue : after? "true" (skipSpace cs) = none :=
    hcs ▸ after?_append htail (by decide) hword.not_true
  have hfalse : after? "false" (skipSpace cs) = none :=
    hcs ▸ after?_append htail (by decide) hword.not_false
  have hhead : ∀ c ∈ (skipSpace cs).head?, c ≠ '\x7b' ∧ c ≠ '[' ∧ c ≠ '"' ∧ c ≠ '\'' := by
    intro c hc
    rw [hcs] at hc
    cases word with
    | nil =>
      obtain rfl | rfl | rfl := htail c hc <;> decide
    | cons d word =>
      obtain rfl := Option.some.inj hc
      have hplain := hword.plain d List.mem_cons_self
      obtain ⟨-, hquote, hsingle⟩ := hword.head d rfl
      refine ⟨fun heq ↦ hplain (heq ▸ rfl), fun heq ↦ hplain (heq ▸ rfl), hquote, hsingle⟩
  have htake : (word ++ tail).takeWhile (!isSeparator ·) = word := by
    rw [List.takeWhile_append_of_pos fun c hc ↦ by simpa using hword.plain c hc]
    cases tail with
    | nil => exact List.append_nil word
    | cons c tail =>
      have hc : ¬(!isSeparator c) := by simpa using htail.isSeparator c rfl
      rw [List.takeWhile_cons_of_neg (p := (!isSeparator ·)) hc, List.append_nil]
  rw [value, htrue, hfalse]
  dsimp only
  split
  case h_8 =>
    have hskip : skipSpace tail = tail :=
      skipSpace_eq_self fun c hc ↦ not_isSpace_of_isSeparator (htail.isSeparator c hc)
    rw [hcs, htake, List.drop_left]
    exact congrArg (fun rest ↦ some (ofWord word, rest)) hskip
  case h_3 r heq _ _ => exact absurd rfl (hhead _ (by rw [heq]; rfl)).1
  case h_4 r heq _ _ => exact absurd rfl (hhead _ (by rw [heq]; rfl)).2.1
  case h_5 r heq _ _ => exact absurd rfl (hhead _ (by rw [heq]; rfl)).2.2.1
  case h_6 c r heq _ _ => exact absurd rfl (hhead _ (by rw [heq]; rfl)).2.2.2
  case h_7 r _ heq _ _ => exact absurd rfl (hhead _ (by rw [heq]; rfl)).2.2.2
  all_goals contradiction

/-- What is denoted is read, and what follows it is left. -/
theorem value_of_marked
    (hitems : ∀ {text ss tail}, DenotesItems text ss → 2 * text.length ≤ fuel →
      items fuel (text ++ tail) = some (ss, tail))
    (hentries : ∀ {text es tail}, DenotesEntries text es → 2 * text.length ≤ fuel →
      entries fuel (text ++ tail) = some (es, tail))
    (h : Marked text s) (hfuel : 2 * text.length ≤ fuel) (hcs : skipSpace cs = text ++ rest) :
    value (fuel + 1) cs = some (s, skipSpace rest) := by
  cases h with
  | true =>
    rw [value, after?_eq_some_iff.2 hcs]
    rfl
  | false =>
    have htrue : after? "true" (skipSpace cs) = none := hcs ▸ after?_cons_of_ne rfl (by decide)
    rw [value, htrue, after?_eq_some_iff.2 hcs]
    rfl
  | table h =>
    rw [value, hcs, List.cons_append, (after?_mark (by decide)).1, (after?_mark (by decide)).2]
    simp only [hentries h (by rw [List.length_cons] at hfuel; omega), Option.map_some]
    rfl
  | list h =>
    rw [value, hcs, List.cons_append, (after?_mark (by decide)).1, (after?_mark (by decide)).2]
    simp only [hitems h (by rw [List.length_cons] at hfuel; omega), Option.map_some]
    rfl
  | quoted h =>
    obtain ⟨text, htext, -, hread⟩ := exists_of_quoted h
    rw [List.append_nil] at htext
    rw [value, hcs, List.cons_append, (after?_mark (by decide)).1, (after?_mark (by decide)).2]
    simp only [htext, hread, Option.map_some]
    rfl
  | single c =>
    rw [value, hcs, List.cons_append, (after?_mark (by decide)).1, (after?_mark (by decide)).2]
    rfl

theorem Marked.exists_cons (h : Marked text s) :
    ∃ c later, text = c :: later ∧ ¬isSpace c ∧ ¬IsClosing c := by
  cases h with
  | true => exact ⟨'t', "rue".toList, rfl, by decide, by decide⟩
  | false => exact ⟨'f', "alse".toList, rfl, by decide, by decide⟩
  | _ => exact ⟨_, _, rfl, by decide, by decide⟩

/-- A value does not begin as what may follow one does. -/
theorem Denotes.not_isClosing (h : Denotes text s) : ∀ c ∈ text.head?, ¬IsClosing c := by
  have hspaces : ∀ {before later : List Char}, AreSpaces before →
      (∀ c ∈ later.head?, ¬IsClosing c) → ∀ c ∈ (before ++ later).head?, ¬IsClosing c := by
    intro before later hbefore hlater c hc hclosing
    cases before with
    | nil => exact hlater c hc hclosing
    | cons d before =>
      obtain rfl := Option.some.inj hc
      exact not_isSpace_of_isSeparator hclosing.isSeparator (hbefore _ List.mem_cons_self)
  cases h with
  | word hbefore hword =>
    exact hspaces hbefore fun c hc hclosing ↦
      hword.plain c (List.mem_of_mem_head? hc) hclosing.isSeparator
  | marked hbefore hafter hmarked =>
    refine hspaces hbefore fun c hc ↦ ?_
    obtain ⟨d, later, rfl, -, hd⟩ := hmarked.exists_cons
    exact Option.some.inj hc ▸ hd

theorem value_of_denotes
    (hitems : ∀ {text ss tail}, DenotesItems text ss → 2 * text.length ≤ fuel →
      items fuel (text ++ tail) = some (ss, tail))
    (hentries : ∀ {text es tail}, DenotesEntries text es → 2 * text.length ≤ fuel →
      entries fuel (text ++ tail) = some (es, tail))
    (h : Denotes text s) (htail : Closes tail) (hfuel : 2 * text.length ≤ fuel) :
    value (fuel + 1) (text ++ tail) = some (s, tail) := by
  cases h with
  | @word before word hbefore hword =>
    refine value_of_word hword htail ?_
    rw [List.append_assoc]
    refine skipSpace_append hbefore fun c hc ↦ ?_
    cases word with
    | nil => exact not_isSpace_of_isSeparator (htail.isSeparator c hc)
    | cons d word => exact (hword.head c hc).1
  | @marked before marked after _ hbefore hafter hmarked =>
    have hcs : skipSpace (before ++ (marked ++ after) ++ tail) = marked ++ (after ++ tail) := by
      rw [List.append_assoc, List.append_assoc]
      refine skipSpace_append hbefore fun c hc ↦ ?_
      obtain ⟨d, later, rfl, hd, -⟩ := hmarked.exists_cons
      exact Option.some.inj hc ▸ hd
    simp only [List.length_append] at hfuel
    rw [value_of_marked hitems hentries hmarked (by omega) hcs, htail.skipSpace_append hafter]

theorem items_of_open (hopen : ∀ rest, cs = ']' :: rest → False) :
    items (fuel + 1) cs = (value fuel cs).bind fun (s, rest) ↦
      match rest with
      | ',' :: rest => (items fuel rest).map fun (ss, rest) ↦ (s :: ss, rest)
      | ']' :: rest => some ([s], rest)
      | _ => none := by
  rw [items]
  · rfl
  · exact hopen

theorem items_of_denotes
    (hvalue : ∀ {text s tail}, Denotes text s → Closes tail → 2 * text.length + 1 ≤ fuel →
      value fuel (text ++ tail) = some (s, tail))
    (hitems : ∀ {text ss tail}, DenotesItems text ss → 2 * text.length ≤ fuel →
      items fuel (text ++ tail) = some (ss, tail))
    {ss : List Setting} (h : DenotesItems text ss) (hfuel : 2 * text.length ≤ fuel + 1) :
    items (fuel + 1) (text ++ tail) = some (ss, tail) := by
  cases h with
  | nil =>
    rw [List.singleton_append]
    unfold items
    rfl
  | @last item s hne hitem =>
    rw [List.length_append, List.length_singleton] at hfuel
    rw [List.append_assoc, List.singleton_append, items_of_open ?_,
      hvalue hitem (closes_cons (by decide)) (by omega)]
    · rfl
    · rintro rest heq
      obtain ⟨c, item, rfl⟩ := List.exists_cons_of_ne_nil hne
      exact absurd (by decide) ((List.cons.inj heq).1 ▸ hitem.not_isClosing c rfl)
  | @cons item s text ss hitem htext =>
    rw [List.length_append, List.length_cons] at hfuel
    rw [List.append_assoc, List.cons_append, items_of_open ?_,
      hvalue hitem (closes_cons (by decide)) (by omega)]
    · simp only [Option.bind_some, hitems htext (by omega), Option.map_some]
    · rintro rest heq
      cases item with
      | nil => exact absurd (List.cons.inj heq).1 (by decide)
      | cons c item =>
        exact absurd (by decide) ((List.cons.inj heq).1 ▸ hitem.not_isClosing c rfl)

theorem key_brace : key ('\x7d' :: cs) = none := by
  have hskip : skipSpace ('\x7d' :: cs) = '\x7d' :: cs :=
    skipSpace_eq_self fun c hc ↦ Option.some.inj hc ▸ (by decide)
  rw [key, hskip]
  rfl

/-- An entry begins with a key, which is no brace. -/
theorem entries_of_key {name : String} (hkey : key cs = some (name, rest)) :
    entries (fuel + 1) cs = (value fuel rest).bind fun (s, rest) ↦
      match rest with
      | ',' :: rest => (entries fuel rest).map fun (es, rest) ↦ ((name, s) :: es, rest)
      | '\x7d' :: rest => some ([(name, s)], rest)
      | _ => none := by
  have hopen : ∀ rest, cs = '\x7d' :: rest → False := by
    rintro rest rfl
    rw [key_brace] at hkey
    cases hkey
  rw [entries, hkey]
  · rfl
  · exact hopen

theorem entries_of_denotes
    (hvalue : ∀ {text s tail}, Denotes text s → Closes tail → 2 * text.length + 1 ≤ fuel →
      value fuel (text ++ tail) = some (s, tail))
    (hentries : ∀ {text es tail}, DenotesEntries text es → 2 * text.length ≤ fuel →
      entries fuel (text ++ tail) = some (es, tail))
    {es : List (String × Setting)} (h : DenotesEntries text es)
    (hfuel : 2 * text.length ≤ fuel + 1) : entries (fuel + 1) (text ++ tail) = some (es, tail) := by
  cases h with
  | nil =>
    rw [List.singleton_append]
    unfold entries
    rfl
  | last hkey hitem =>
    obtain ⟨front, hfront, hne, hread⟩ := exists_of_key hkey
    rw [List.append_nil] at hfront
    have hpositive := List.length_pos_iff.2 hne
    simp only [hfront, List.length_append, List.length_singleton] at hfuel ⊢
    rw [List.append_assoc, List.append_assoc, List.singleton_append, entries_of_key (hread _),
      hvalue hitem (closes_cons (by decide)) (by omega)]
    rfl
  | cons hkey hitem htext =>
    obtain ⟨front, hfront, hne, hread⟩ := exists_of_key hkey
    rw [List.append_nil] at hfront
    have hpositive := List.length_pos_iff.2 hne
    simp only [hfront, List.length_append, List.length_cons] at hfuel ⊢
    rw [List.append_assoc, List.append_assoc, List.cons_append, entries_of_key (hread _),
      hvalue hitem (closes_cons (by decide)) (by omega)]
    simp only [Option.bind_some, hentries htext (by omega), Option.map_some]

/-- **What is denoted is read**, and what follows it is left. -/
theorem read_of_denotes (fuel : Nat) :
    (∀ {text s tail}, Denotes text s → Closes tail → 2 * text.length + 1 ≤ fuel →
      value fuel (text ++ tail) = some (s, tail)) ∧
    (∀ {text ss tail}, DenotesItems text ss → 2 * text.length ≤ fuel →
      items fuel (text ++ tail) = some (ss, tail)) ∧
    ∀ {text es tail}, DenotesEntries text es → 2 * text.length ≤ fuel →
      entries fuel (text ++ tail) = some (es, tail) := by
  induction fuel with
  | zero =>
    refine ⟨fun _ _ h ↦ absurd h (Nat.not_succ_le_zero _), fun h hlength ↦ ?_, fun h hlength ↦ ?_⟩
    · cases h <;> simp at hlength
    · cases h <;> simp at hlength
  | succ fuel ih =>
    obtain ⟨hvalue, hitems, hentries⟩ := ih
    exact ⟨fun h htail hlength ↦ value_of_denotes hitems hentries h htail (by omega),
      items_of_denotes hvalue hitems, entries_of_denotes hvalue hentries⟩

/-! ### Values of variables -/

/-- **The value of a variable** is what its text is the notation of, -/
theorem ofText_of_denotes {value : String} (h : Denotes value.toList s) : ofText value = s := by
  have hlength : 2 * value.toList.length + 1 ≤ 2 * value.length + 4 := by
    rw [String.length_toList]
    omega
  have hread : Variable.value (2 * value.length + 4) (value.toList ++ []) = some (s, []) :=
    (read_of_denotes _).1 h nofun hlength
  rw [List.append_nil] at hread
  rw [ofText, hread]

/-- and the text itself, if it is no notation. -/
theorem ofText_of_not_denotes {value : String} (h : ∀ s, ¬Denotes value.toList s) :
    ofText value = .text value := by
  rw [ofText]
  split
  · next s hread =>
    obtain ⟨text, htext, hdenotes⟩ := (exists_of_read _).1 hread
    rw [List.append_nil] at htext
    exact absurd (htext ▸ hdenotes) (h s)
  · rfl

theorem ofText_eq_iff {value : String} :
    ofText value = s ↔
      Denotes value.toList s ∨ (∀ s, ¬Denotes value.toList s) ∧ s = .text value := by
  by_cases hdenotes : ∃ t, Denotes value.toList t
  · obtain ⟨t, ht⟩ := hdenotes
    rw [ofText_of_denotes ht]
    constructor
    · rintro rfl
      exact .inl ht
    · rintro (hs | ⟨hnone, -⟩)
      · exact (ofText_of_denotes ht).symm.trans (ofText_of_denotes hs)
      · exact absurd ht (hnone t)
  · rw [not_exists] at hdenotes
    rw [ofText_of_not_denotes hdenotes]
    constructor
    · exact fun h ↦ .inr ⟨hdenotes, h.symm⟩
    · rintro (hs | ⟨-, rfl⟩)
      · exact absurd hs (hdenotes s)
      · rfl

/-! ### Texts as they are -/

/-- A word is a text if it is no number, and then it is that without blanks around. -/
theorem ofWord_eq_text_iff {word : List Char} {value : String} : ofWord word = .text value ↔
    Text.trimBoth word = value.toList ∧ integer? value.toList = none ∧
      ¬('.' ∈ value.toList ∧ (Decimal.ofChars? value.toList).isSome) := by
  have htext : ∀ cs : List Char,
      Setting.text (String.ofList cs) = .text value ↔ cs = value.toList := by
    intro cs
    rw [Setting.text.injEq, ← String.toList_inj, String.toList_ofList]
  rw [ofWord]
  generalize Text.trimBoth word = cs
  constructor
  · intro h
    split at h
    · cases h
    · next hfraction =>
      split at h
      · cases h
      · next hinteger =>
        obtain rfl := (htext cs).1 h
        exact ⟨rfl, hinteger, by simpa using hfraction⟩
  · rintro ⟨rfl, hinteger, hfraction⟩
    rw [if_neg (by simpa using hfraction), hinteger]
    exact (htext _).2 rfl

/-- **A plain word** is no number, and no blanks are around it. -/
structure IsPlain (word : List Char) : Prop extends IsWord word where
  trimmed : Text.trimBoth word = word
  not_integer : integer? word = none
  not_fraction : ¬('.' ∈ word ∧ (Decimal.ofChars? word).isSome)

/-- What shows where it ends stands for another text, if for one at all. -/
theorem Marked.length_lt (h : Marked text s) {value : String} (hs : s = .text value) :
    value.toList.length < text.length := by
  cases h with
  | quoted h =>
    obtain ⟨text, htext, hlength, -⟩ := exists_of_quoted h
    rw [← Setting.text.inj hs, String.toList_ofList, htext, List.append_nil, List.length_cons]
    omega
  | single c =>
    rw [← Setting.text.inj hs, String.toList_singleton]
    simp
  | _ => cases hs

/-- **Only a plain word is the notation of itself.** -/
theorem denotes_self_iff {value : String} :
    Denotes value.toList (.text value) ↔ IsPlain value.toList := by
  constructor
  · intro h
    generalize hcs : value.toList = cs at h
    generalize hs : Setting.text value = s at h
    cases h with
    | @word before word hbefore hword =>
      obtain ⟨htrim, hinteger, hfraction⟩ := ofWord_eq_text_iff.1 hs.symm
      have hlength : (Text.trimBoth word).length ≤ word.length := by
        rw [Text.trimBoth_eq]
        exact (List.rdropWhile_prefix _ _).length_le.trans (List.dropWhile_sublist _).length_le
      rw [htrim, hcs, List.length_append] at hlength
      obtain rfl := List.length_eq_zero_iff.1 (by omega : before.length = 0)
      rw [List.nil_append] at hcs ⊢
      rw [hcs] at htrim hinteger hfraction
      exact ⟨hword, htrim, hinteger, hfraction⟩
    | marked hbefore hafter hmarked =>
      have hlength := hmarked.length_lt hs.symm
      rw [hcs, List.length_append, List.length_append] at hlength
      omega
  · intro h
    have htext : ofWord value.toList = .text value :=
      ofWord_eq_text_iff.2 ⟨h.trimmed, h.not_integer, h.not_fraction⟩
    have hdenotes : Denotes ([] ++ value.toList) (ofWord value.toList) := .word nofun h.toIsWord
    rwa [List.nil_append, htext] at hdenotes

/-- A value stands for itself if it is no notation, or a plain word. -/
theorem ofText_eq_self_iff {value : String} :
    ofText value = .text value ↔ (∀ s, ¬Denotes value.toList s) ∨ IsPlain value.toList := by
  rw [ofText_eq_iff, denotes_self_iff, and_iff_left rfl, or_comm]

/-- **Every text has a notation**, in quotes. -/
theorem denotes_inQuotes (text : String) : Denotes (inQuotes text).toList (.text text) := by
  have hmarked : Marked ('"' :: (text.toList.flatMap escaped ++ ['"']))
      (.text (String.ofList text.toList)) := .quoted (quoted_flatMap_escaped _)
  have hdenotes : Denotes ([] ++ ('"' :: (text.toList.flatMap escaped ++ ['"']) ++ []))
      (.text (String.ofList text.toList)) := .marked nofun nofun hmarked
  rw [List.nil_append, List.append_nil, String.ofList_toList] at hdenotes
  rwa [inQuotes, String.toList_ofList]

/-! ### What can be denoted -/

theorem not_isTable_ofWord (word : List Char) : ¬(ofWord word).IsTable := by
  rw [ofWord]
  split
  · exact id
  · split <;> exact id

/-- Nothing is the notation of nothing. -/
theorem Denotes.ne_empty (h : Denotes text s) : s ≠ .empty := by
  intro hs
  cases h with
  | word hbefore hword =>
    rw [ofWord] at hs
    split at hs
    · cases hs
    · split at hs <;> cases hs
  | marked hbefore hafter hmarked => cases hmarked <;> cases hs

/-- What is denoted is in order, by induction on its notation. Of the items of a list nothing is
asked. -/
theorem Denotes.ordered (h : Denotes text s) : s.Ordered := by
  refine @Denotes.rec (fun _ s _ ↦ s.Ordered) (fun _ s _ ↦ s.Ordered) (fun _ _ _ ↦ True)
    (fun _ es _ ↦ ∀ e ∈ es, e.2.Ordered) ?word ?marked ?true ?false ?table ?list ?quoted ?single
    ?noItem ?lastItem ?items ?noEntry ?lastEntry ?entries _ _ h
  case word => exact fun _ _ ↦ ordered_of_not_isTable (not_isTable_ofWord _)
  case marked => exact fun _ _ _ hmarked ↦ hmarked
  case table => exact fun _ hentries ↦ ordered_tableOf hentries
  case true | false => exact ordered_of_not_isTable id
  case list => exact fun _ _ ↦ ordered_of_not_isTable id
  case quoted => exact fun _ ↦ ordered_of_not_isTable id
  case single => exact fun _ ↦ ordered_of_not_isTable id
  case noItem => trivial
  case lastItem | items => intros; trivial
  case noEntry => exact nofun
  case lastEntry => exact fun _ _ hitem ↦ List.forall_mem_singleton.2 hitem
  case entries => exact fun _ _ _ hitem hentries ↦ List.forall_mem_cons.2 ⟨hitem, hentries⟩

theorem ordered_ofText (value : String) : (ofText value).Ordered := by
  obtain hdenotes | ⟨-, htext⟩ := ofText_eq_iff.1 (rfl : ofText value = ofText value)
  · exact Denotes.ordered hdenotes
  · rw [htext]
    exact ordered_of_not_isTable id

end AccountDirectory.Setting.Variable
