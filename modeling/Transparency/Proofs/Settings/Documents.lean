import Transparency.Proofs.Json.Skipping
import Transparency.Settings.Document

/-! Settings documents say what they are read as. A document lists members; those of a known field
override its default, and all others are passed over. Main statement: every such document, the
printed ones among them, is read as the defaults with the listed fields overridden. -/
namespace Transparency.Settings
open Json

/-! ### Documents -/

/-- A member of the object that holds settings. -/
inductive Member
  | enabled (on : Bool)
  | fallbackSize (size : Int32)
  | other (key : String)

namespace Member

/-- What the key says once its escapes are resolved. -/
def key : Member → String
  | enabled _ => "enabled"
  | fallbackSize _ => "fallback_screen_size"
  | other key => key

/-- Whether the member is one of the settings. -/
def isKnown : Member → Bool
  | other _ => false
  | _ => true

/-- The texts of the value. A field that is not known may have any value at all. -/
inductive ValueText : Member → List Char → Prop
  | enabled (on : Bool) : ValueText (.enabled on) (flagText on).toList
  | fallbackSize {size : Int32} {text : List Char} : IntegerText size.toInt text →
      ValueText (.fallbackSize size) text
  | other {key : String} {text : List Char} : key ≠ "enabled" → key ≠ "fallback_screen_size" →
      Written .value text → ValueText (.other key) text

end Member

/-- The texts of a member: its key, a colon and its value, with white space anywhere between. -/
inductive MemberText : Member → List Char → Prop
  | mk {member : Member} {before key gap lead value after : List Char} : Blank before →
      Spells member.key.toList key → Blank gap → Blank lead → member.ValueText value → Blank after →
      MemberText member
        (before ++ '"' :: (key ++ '"' :: (gap ++ ':' :: (lead ++ (value ++ after)))))

/-- The texts of the members after the first one, each behind its comma. -/
inductive LaterText : List Member → List Char → Prop
  | nil : LaterText [] []
  | cons {member : Member} {members : List Member} {text rest : List Char} :
      MemberText member text → LaterText members rest →
      LaterText (member :: members) (',' :: (text ++ rest))

/-- The documents that list the members. -/
inductive DocumentText : List Member → List Char → Prop
  | empty {before gap after : List Char} : Blank before → Blank gap → Blank after →
      DocumentText [] (before ++ '\x7b' :: (gap ++ '\x7d' :: after))
  | listed {member : Member} {members : List Member} {before text rest after : List Char} :
      Blank before → MemberText member text → LaterText members rest → Blank after →
      DocumentText (member :: members) (before ++ '\x7b' :: (text ++ (rest ++ '\x7d' :: after)))

/-- No known field is listed again. -/
def Distinct (members : List Member) : Prop :=
  members.Pairwise fun member later => member.isKnown → member.key ≠ later.key

instance (members : List Member) : Decidable (Distinct members) :=
  inferInstanceAs (Decidable (List.Pairwise _ members))

/-- The settings with what the member says. -/
def override (settings : Settings) : Member → Settings
  | .enabled on => { settings with enabled := on }
  | .fallbackSize size => { settings with fallbackSize := size }
  | .other _ => settings

/-! ### Drafts -/

/-- The draft with what the member says. -/
def Draft.take (draft : Draft) : Member → Draft
  | .enabled on => { draft with enabled := some on }
  | .fallbackSize size => { draft with fallbackSize := some size }
  | .other _ => draft

/-- The draft has not found the field of the member. -/
def Draft.Lacks (draft : Draft) : Member → Prop
  | .enabled _ => draft.enabled = none
  | .fallbackSize _ => draft.fallbackSize = none
  | .other _ => True

@[simp] theorem Draft.settings_take (draft : Draft) (member : Member) :
    (draft.take member).settings = draft.settings.override member := by
  cases member <;> rfl

theorem Draft.settings_foldl_take (draft : Draft) (members : List Member) :
    (members.foldl Draft.take draft).settings = members.foldl override draft.settings := by
  induction members generalizing draft with
  | nil => rfl
  | cons member members ih => rw [List.foldl_cons, ih, Draft.settings_take, List.foldl_cons]

/-- A member fills no field but its own. -/
theorem Draft.Lacks.take {draft : Draft} {member later : Member} (h : draft.Lacks later)
    (hkey : member.isKnown → member.key ≠ later.key) : (draft.take member).Lacks later := by
  cases member with
  | enabled =>
    cases later with
    | enabled => exact absurd rfl (hkey rfl)
    | _ => exact h
  | fallbackSize =>
    cases later with
    | fallbackSize => exact absurd rfl (hkey rfl)
    | _ => exact h
  | other => exact h

/-! ### Values -/

theorem readColon_append {gap : List Char} (h : Blank gap) (rest : List Char) :
    readColon (gap ++ ':' :: rest) = .ok rest := by
  simp only [readColon, skipSpace_append h, skipSpace_cons (c := ':') rfl]

theorem readFlag_append {lead : List Char} (h : Blank lead) (on : Bool) (rest : List Char) :
    readFlag (lead ++ ((flagText on).toList ++ rest)) = .ok (on, rest) := by
  cases on with
  | true =>
    have hword : word ['r', 'u', 'e'] ('r' :: 'u' :: 'e' :: rest) = .ok rest := word_append _ rest
    have htext : (flagText true).toList = ['t', 'r', 'u', 'e'] := rfl
    simp [readFlag, skipSpace_append h, htext, skipSpace_cons, isSpace, hword, Except.map]
  | false =>
    have hword : word ['a', 'l', 's', 'e'] ('a' :: 'l' :: 's' :: 'e' :: rest) = .ok rest :=
      word_append _ rest
    have htext : (flagText false).toList = ['f', 'a', 'l', 's', 'e'] := rfl
    simp [readFlag, skipSpace_append h, htext, skipSpace_cons, isSpace, hword, Except.map]

theorem toInt32?_toInt (size : Int32) : toInt32? size.toInt = some size := by
  rw [toInt32?, if_pos ⟨size.minValue_le_toInt, size.toInt_le⟩, Int32.ofInt_toInt]

theorem readInt32_append {lead text rest : List Char} {size : Int32} (h : Blank lead)
    (htext : IntegerText size.toInt text) (hrest : Ends rest) :
    readInt32 (lead ++ (text ++ rest)) = .ok (size, rest) := by
  have hlow := size.le_toInt
  have hhigh := size.toInt_lt
  have hbound : wordBound = 2 ^ 64 := rfl
  have hread := readNumber_integer htext (by omega) (by omega) hrest
  obtain ⟨c, tail, rfl, hc⟩ := htext.numberText.exists_cons
  rw [List.cons_append] at hread
  rw [readInt32, skipSpace_append h, List.cons_append, skipSpace_cons (begins_number hc).isSpace]
  simp only [hc, if_true, hread, toInt32?_toInt]

/-! ### Members -/

section

variable {draft : Draft} {text afterKey afterColon rest : List Char}

theorem readMember_enabled {on : Bool}
    (hkey : readString [] text = .ok ("enabled".toList, afterKey))
    (hcolon : readColon afterKey = .ok afterColon) (hvalue : readFlag afterColon = .ok (on, rest))
    (hlacks : draft.enabled = none) :
    readMember draft text = .ok ({ draft with enabled := some on }, rest) := by
  rw [readMember, hkey]
  simp only [bind, Except.bind]
  rw [if_pos trivial, hlacks, hcolon, Option.isSome_none, if_neg nofun]
  simp only [hvalue, pure, Except.pure]

theorem readMember_fallbackSize {size : Int32}
    (hkey : readString [] text = .ok ("fallback_screen_size".toList, afterKey))
    (hcolon : readColon afterKey = .ok afterColon)
    (hvalue : readInt32 afterColon = .ok (size, rest)) (hlacks : draft.fallbackSize = none) :
    readMember draft text = .ok ({ draft with fallbackSize := some size }, rest) := by
  rw [readMember, hkey]
  simp only [bind, Except.bind]
  rw [if_neg (mt String.toList_inj.1 (by decide)), if_pos trivial, hlacks, hcolon,
    Option.isSome_none, if_neg nofun]
  simp only [hvalue, pure, Except.pure]

theorem readMember_other {key : String} (hkey : readString [] text = .ok (key.toList, afterKey))
    (hcolon : readColon afterKey = .ok afterColon) (hvalue : skipValue [] afterColon = .ok rest)
    (henabled : key ≠ "enabled") (hsize : key ≠ "fallback_screen_size") :
    readMember draft text = .ok (draft, rest) := by
  rw [readMember, hkey]
  simp only [bind, Except.bind]
  rw [if_neg (mt String.toList_inj.1 henabled), if_neg (mt String.toList_inj.1 hsize), hcolon]
  simp only [hvalue, pure, Except.pure]

/-- A member is read up to what follows its value, and only its own field changes. -/
theorem readMember_append {member : Member} {key gap lead value : List Char}
    (hkey : Spells member.key.toList key) (hgap : Blank gap) (hlead : Blank lead)
    (hvalue : member.ValueText value) (hlacks : draft.Lacks member) (hrest : Follows rest) :
    readMember draft (key ++ '"' :: (gap ++ ':' :: (lead ++ (value ++ rest)))) =
      .ok (draft.take member, rest) := by
  have hread := readString_append hkey [] (gap ++ ':' :: (lead ++ (value ++ rest)))
  have hcolon := readColon_append hgap (lead ++ (value ++ rest))
  rw [List.reverse_nil, List.nil_append] at hread
  cases hvalue with
  | enabled on => exact readMember_enabled hread hcolon (readFlag_append hlead on rest) hlacks
  | fallbackSize htext =>
    exact readMember_fallbackSize hread hcolon (readInt32_append hlead htext hrest.ends) hlacks
  | other henabled hsize hwritten =>
    refine readMember_other hread hcolon ?_ henabled hsize
    rw [skipValue_congr [] (skipSpace_append hlead _), passed_of_written hwritten [] rest hrest,
      skipRest]

end

/-! ### Objects -/

/-- Behind the white space in front of a member stands its key, and reading the member leaves the
white space after its value. -/
theorem MemberText.read {member : Member} {text : List Char} (h : MemberText member text) :
    ∃ after, Blank after ∧ ∀ rest, ∃ body, skipSpace (text ++ rest) = '"' :: body ∧
      ∀ draft : Draft, draft.Lacks member → Follows rest →
        readMember draft body = .ok (draft.take member, after ++ rest) := by
  obtain @⟨before, key, gap, lead, value, after, hbefore, hkey, hgap, hlead, hvalue, hafter⟩ := h
  refine ⟨after, hafter, fun rest => ?_⟩
  refine ⟨key ++ '"' :: (gap ++ ':' :: (lead ++ (value ++ (after ++ rest)))), ?_, ?_⟩
  · rw [List.append_assoc, skipSpace_append hbefore]
    simp only [List.append_assoc, List.cons_append, skipSpace_cons (c := '"') rfl]
  · intro draft hlacks hrest
    exact readMember_append hkey hgap hlead hvalue hlacks (hrest.append hafter)

theorem readMembers_closer {gap : List Char} (h : Blank gap) (fuel : Nat) (draft : Draft)
    (rest : List Char) :
    readMembers (fuel + 1) draft (gap ++ '\x7d' :: rest) = .ok (draft, rest) := by
  simp [readMembers, skipSpace_append h, skipSpace_cons, isSpace, pure, Except.pure]

theorem readMembers_comma {gap text body after : List Char} {draft draft' : Draft} (h : Blank gap)
    (fuel : Nat) (hkey : skipSpace text = '"' :: body)
    (hread : readMember draft body = .ok (draft', after)) :
    readMembers (fuel + 1) draft (gap ++ ',' :: text) = readMembers fuel draft' after := by
  simp [readMembers, skipSpace_append h, skipSpace_cons, isSpace, hkey, hread, bind, Except.bind]

/-- The draft lacks what the members say, each of which says something else. -/
def Draft.Awaits (draft : Draft) (members : List Member) : Prop :=
  Distinct members ∧ ∀ member ∈ members, draft.Lacks member

theorem Draft.Awaits.take {draft : Draft} {member : Member} {members : List Member}
    (h : draft.Awaits (member :: members)) :
    draft.Lacks member ∧ (draft.take member).Awaits members := by
  obtain ⟨hdistinct, hlacks⟩ := h
  obtain ⟨hkey, hdistinct⟩ := List.pairwise_cons.1 hdistinct
  refine ⟨hlacks member List.mem_cons_self, hdistinct, fun later hlater => ?_⟩
  exact (hlacks later (List.mem_cons_of_mem member hlater)).take (hkey later hlater)

theorem LaterText.follows {members : List Member} {text : List Char} (h : LaterText members text)
    (rest : List Char) : Follows (text ++ '\x7d' :: rest) := by
  cases h with
  | nil => exact .closer .object rest
  | cons => exact .comma _

theorem LaterText.length_le {members : List Member} {text : List Char}
    (h : LaterText members text) : members.length ≤ text.length := by
  induction h with
  | nil => exact Nat.le_refl _
  | cons _ _ ih => simp only [List.length_cons, List.length_append]; omega

/-- The members after the first one are read up to the closing bracket. -/
theorem readMembers_append {members : List Member} {text gap : List Char} {draft : Draft}
    {fuel : Nat} (h : LaterText members text) (hgap : Blank gap) (hdraft : draft.Awaits members)
    (hfuel : members.length < fuel) (rest : List Char) :
    readMembers fuel draft (gap ++ (text ++ '\x7d' :: rest)) =
      .ok (members.foldl Draft.take draft, rest) := by
  -- On the members still to come: each leaves its field to the draft, and the white space behind its
  -- value to the next one.
  induction h generalizing gap draft fuel with
  | nil =>
    obtain ⟨fuel, rfl⟩ := Nat.exists_eq_add_of_lt hfuel
    exact readMembers_closer hgap _ draft rest
  | @cons member members text later hmember hlater ih =>
    obtain ⟨after, hafter, hread⟩ := hmember.read
    obtain ⟨body, hkey, hread⟩ := hread (later ++ '\x7d' :: rest)
    have hread := hread draft hdraft.take.1 (hlater.follows rest)
    obtain ⟨fuel, rfl⟩ := Nat.exists_eq_succ_of_ne_zero (Nat.ne_zero_of_lt hfuel)
    rw [List.cons_append, List.append_assoc, readMembers_comma hgap fuel hkey hread]
    exact ih hafter hdraft.take.2 (Nat.lt_of_succ_lt_succ hfuel)

theorem readObject_empty {gap : List Char} (h : Blank gap) (rest : List Char) :
    readObject (gap ++ '\x7d' :: rest) = .ok ({}, rest) := by
  simp [readObject, skipSpace_append h, skipSpace_cons, isSpace, pure, Except.pure]

theorem readObject_key {text body after : List Char} {draft : Draft}
    (hkey : skipSpace text = '"' :: body) (hread : readMember {} body = .ok (draft, after)) :
    readObject text = readMembers (after.length + 1) draft after := by
  simp [readObject, hkey, hread, bind, Except.bind]

/-- An object is read up to its closing bracket. -/
theorem readObject_append {member : Member} {members : List Member} {text later : List Char}
    (hmember : MemberText member text) (hlater : LaterText members later)
    (hdistinct : Distinct (member :: members)) (rest : List Char) :
    readObject (text ++ (later ++ '\x7d' :: rest)) =
      .ok ((member :: members).foldl Draft.take {}, rest) := by
  have hdraft : Draft.Awaits {} (member :: members) :=
    ⟨hdistinct, fun member _ => by cases member <;> trivial⟩
  obtain ⟨after, hafter, hread⟩ := hmember.read
  obtain ⟨body, hkey, hread⟩ := hread (later ++ '\x7d' :: rest)
  have hread := hread {} hdraft.take.1 (hlater.follows rest)
  -- The fuel is the length of a text that has a comma for each member.
  have hfuel : members.length < (after ++ (later ++ '\x7d' :: rest)).length + 1 := by
    have := hlater.length_le
    simp only [List.length_append]
    omega
  rw [readObject_key hkey hread]
  exact readMembers_append hlater hafter hdraft.take.2 hfuel rest

theorem ofDocument_opener {text : String} {before inside after : List Char} {draft : Draft}
    (htext : text.toList = before ++ '\x7b' :: inside) (hbefore : Blank before)
    (hread : readObject inside = .ok (draft, after)) (hafter : Blank after) :
    ofDocument text = .ok draft.settings := by
  have hend : skipSpace after = [] := by
    rw [← List.append_nil after, skipSpace_append hafter]
    rfl
  simp [ofDocument, htext, skipSpace_append hbefore, skipSpace_cons, isSpace, hread, hend, bind,
    Except.bind, pure, Except.pure]

/-- A document is read as the defaults with the listed fields overridden. -/
theorem ofDocument_text {members : List Member} {text : String}
    (h : DocumentText members text.toList) (hdistinct : Distinct members) :
    ofDocument text = .ok (members.foldl override {}) := by
  have hsettings := Draft.settings_foldl_take {} members
  generalize htext : text.toList = chars at h
  cases h with
  | empty hbefore hgap hafter =>
    exact ofDocument_opener htext hbefore (readObject_empty hgap _) hafter
  | listed hbefore hmember hlater hafter =>
    rw [ofDocument_opener htext hbefore (readObject_append hmember hlater hdistinct _) hafter,
      hsettings]
    rfl

/-! ### Printed documents -/

theorem head?_toDigits {n : Nat} (h : (Nat.toDigits 10 n).head? = some '0') : n = 0 := by
  induction n using Nat.strongRecOn with
  | _ n ih =>
    by_cases hn : n < 10
    · have digits : ∀ d < 10, Nat.digitChar d = '0' → d = 0 := by decide
      rw [Nat.toDigits_of_lt_base hn] at h
      exact digits n hn (Option.some.inj h)
    · obtain ⟨c, tail, hdigits⟩ :=
        List.exists_cons_of_ne_nil (Nat.toDigits_ne_nil (n := n / 10) (b := 10))
      rw [Nat.toDigits_of_base_le (by decide) (by omega), hdigits] at h
      have := ih (n / 10) (by omega) (by rw [hdigits]; exact h)
      omega

/-- Digits are printed without a zero in front. -/
theorem wholeText_toDigits (n : Nat) : WholeText (Nat.toDigits 10 n) := by
  refine ⟨⟨Nat.toDigits_ne_nil, fun c hc => ?_⟩, fun hzero => ?_⟩
  · exact Nat.isDigit_of_mem_toDigits (by decide) (by decide) hc
  · rw [head?_toDigits hzero]
    rfl

theorem integerText_decimalChars (n : Int) : IntegerText n (Text.decimalChars n) := by
  have hwhole := wholeText_toDigits n.natAbs
  have hvalue : Nat.ofDigitChars 10 (Nat.toDigits 10 n.natAbs) 0 = n.natAbs :=
    Nat.ofDigitChars_toDigits (by decide) (by decide)
  rw [Text.decimalChars]
  split
  · have h := IntegerText.negative hwhole (by omega)
    rwa [hvalue, show -(n.natAbs : Int) = n by omega] at h
  · have h := IntegerText.plain hwhole
    rwa [hvalue, show (n.natAbs : Int) = n by omega] at h

theorem Member.plain_key {member : Member} (h : member.isKnown) :
    ∀ c ∈ member.key.toList, Plain c := by
  cases member with
  | enabled => simp [Member.key, Plain]
  | fallbackSize => simp [Member.key, Plain]
  | other => exact absurd h nofun

/-- A known key is printed as it is, without white space around it. -/
theorem memberText_plain (member : Member) {value : List Char} (hknown : member.isKnown)
    (h : member.ValueText value) :
    MemberText member ('"' :: (member.key.toList ++ '"' :: ':' :: value)) := by
  have := MemberText.mk .nil (.plain (Member.plain_key hknown)) .nil .nil h .nil
  rwa [List.append_nil] at this

/-- The printed document lists both fields. -/
theorem documentText_toDocument (settings : Settings) :
    DocumentText [.enabled settings.enabled, .fallbackSize settings.fallbackSize]
      settings.toDocument.toList := by
  have henabled := memberText_plain (.enabled settings.enabled) rfl (.enabled _)
  have hsize := memberText_plain (.fallbackSize settings.fallbackSize) rfl
    (.fallbackSize (integerText_decimalChars _))
  have h := DocumentText.listed .nil henabled (.cons hsize .nil) .nil
  have htext : settings.toDocument.toList =
      '\x7b' :: '"' :: ("enabled".toList ++ '"' :: ':' :: ((flagText settings.enabled).toList ++
        ',' :: '"' :: ("fallback_screen_size".toList ++
          '"' :: ':' :: (Text.decimalChars settings.fallbackSize.toInt ++ ['\x7d'])))) := by
    simp [toDocument, Text.decimal]
  rw [htext]
  simpa only [Member.key, List.nil_append, List.cons_append, List.append_assoc, List.append_nil]
    using h

/-- A document is read as what it says: as the settings that were printed, or as the defaults
overridden by the known fields that it lists, whatever else it does. -/
theorem ofDocument_document :
    (∀ settings : Settings, ofDocument settings.toDocument = .ok settings) ∧
    ∀ (members : List Member) (text : String), DocumentText members text.toList →
      Distinct members → ofDocument text = .ok (members.foldl override {}) := by
  refine ⟨fun settings => ?_, fun members text => ofDocument_text⟩
  have hdistinct : Distinct [.enabled settings.enabled, .fallbackSize settings.fallbackSize] :=
    List.pairwise_pair.2 fun _ => by simp [Member.key]
  exact ofDocument_text (documentText_toDocument settings) hdistinct

/-- Nested values, one of them under a key that is half of a surrogate pair. -/
theorem written_sample : Written .value "[1.50e+3, \x7b\"a\\ud800\": null\x7d ,[]]".toList := by
  have space : Blank [' '] := by decide
  have number : Written .value "1.50e+3".toList := by
    have exponent := @ExponentText.digits 'e' ['+'] ['3'] (by simp) (by simp) (by decide)
    have fraction := @FractionText.digits ['5', '0'] (by decide)
    simpa using Written.number
      (@NumberText.parts [] ['1'] _ _ (by simp) (by decide) fraction exponent)
  have object : Written .value "\x7b\"a\\ud800\": null\x7d".toList := by
    have half : Quad 0xD800 ['d', '8', '0', '0'] :=
      @Quad.digits 'd' '8' '0' '0' 13 8 0 0 (by decide) (by decide) (by decide) (by decide)
    have key : StringText "a\\ud800".toList := by
      simpa using StringText.cons (@UnitText.plain 'a' (by decide)) (.cons (.code half) .nil)
    have member := Written.member .nil key .nil (.element space .null .nil)
    simpa [Bracket.opener, Bracket.closer] using Written.filled .object (.last .object member)
  have last := Written.last .list (.element .nil (.empty .list .nil) .nil)
  have row := Written.more .list (.element .nil number .nil)
    (.more .list (.element space object space) last)
  simpa [Bracket.opener, Bracket.closer] using Written.filled .list row

/-- A document with a known key that is written with an escape, and with two more fields: one holds
nested values, the other has a key of two surrogates. -/
def sampleDocument : String :=
  "\t\x7b \"notes\" :[1.50e+3, \x7b\"a\\ud800\": null\x7d ,[]]\n, \"\\u0065nabled\":false ," ++
    "\"\\uD83D\\ude00\":\"\\n\",\n\"fallback_screen_size\" : -2147483648\x7d "

/-- What the document lists. -/
def sampleMembers : List Member :=
  [.other "notes", .enabled false, .other "😀", .fallbackSize (-2147483648)]

theorem documentText_sample : DocumentText sampleMembers sampleDocument.toList := by
  have space : Blank [' '] := by decide
  have newline : Blank ['\n'] := by decide
  have tab : Blank ['\t'] := by decide
  have notes : MemberText (.other "notes")
      " \"notes\" :[1.50e+3, \x7b\"a\\ud800\": null\x7d ,[]]\n".toList := by
    have key : Spells (Member.other "notes").key.toList "notes".toList :=
      .plain (by simp [Member.key, Plain])
    have value := @Member.ValueText.other "notes" _ (by decide) (by decide) written_sample
    simpa using MemberText.mk space key space .nil value newline
  have enabled : MemberText (.enabled false) " \"\\u0065nabled\":false ".toList := by
    have quad : Quad 'e'.toNat ['0', '0', '6', '5'] :=
      @Quad.digits '0' '0' '6' '5' 0 0 6 5 (by decide) (by decide) (by decide) (by decide)
    have key : Spells (Member.enabled false).key.toList "\\u0065nabled".toList := by
      simpa [Member.key] using
        Spells.cons (.code quad) (.plain (by simp [Plain] : ∀ c ∈ "nabled".toList, Plain c))
    simpa [flagText] using MemberText.mk space key .nil .nil (.enabled false) space
  have smile : MemberText (.other "😀") "\"\\uD83D\\ude00\":\"\\n\"".toList := by
    have high : Quad 0xD83D ['D', '8', '3', 'D'] :=
      @Quad.digits 'D' '8' '3' 'D' 13 8 3 13 (by decide) (by decide) (by decide) (by decide)
    have low : Quad 0xDE00 ['d', 'e', '0', '0'] :=
      @Quad.digits 'd' 'e' '0' '0' 13 14 0 0 (by decide) (by decide) (by decide) (by decide)
    have key : Spells (Member.other "😀").key.toList "\\uD83D\\ude00".toList := by
      simpa [Member.key] using Spells.cons (@CharText.pair '😀' _ _ (by decide) high low) .nil
    have text : StringText "\\n".toList := by
      simpa using StringText.cons (@UnitText.short 'n' '\n' (by decide)) .nil
    have value := @Member.ValueText.other "😀" _ (by decide) (by decide) (.string text)
    simpa using MemberText.mk .nil key .nil .nil value .nil
  have size : MemberText (.fallbackSize (-2147483648))
      "\n\"fallback_screen_size\" : -2147483648".toList := by
    have key : Spells (Member.fallbackSize (-2147483648)).key.toList
        "fallback_screen_size".toList := Spells.plain (Member.plain_key rfl)
    have number : IntegerText (-2147483648) "-2147483648".toList := by
      simpa [Nat.ofDigitChars] using
        @IntegerText.negative "2147483648".toList (by decide) (by decide)
    have value := @Member.ValueText.fallbackSize (-2147483648) _ number
    simpa using MemberText.mk newline key space space value .nil
  unfold sampleMembers sampleDocument
  simpa using DocumentText.listed tab notes (.cons enabled (.cons smile (.cons size .nil))) space

theorem ofDocument_sample :
    DocumentText sampleMembers sampleDocument.toList ∧ Distinct sampleMembers ∧
    ofDocument sampleDocument = .ok { enabled := false, fallbackSize := -2147483648 } := by
  have hdistinct : Distinct sampleMembers := by decide
  exact ⟨documentText_sample, hdistinct, ofDocument_document.2 _ _ documentText_sample hdistinct⟩

end Transparency.Settings
