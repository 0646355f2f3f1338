import Tenancy.Proofs.Settings.Check
import Tenancy.Proofs.Text.Decimal
import Tenancy.Settings.Variables

/-!
# Settings that variables spell out

Each setting is spelled by its variable in a way of its own (`Spells`); a flag is read from its
spellings and from nothing else (`flag_eq_ok_iff`). A variable may be left out where the setting is
its default (`SpelledOut`). Reading such variables gives the settings, whether they can be used or
not (`SpelledOut.readVariables_eq`), as long as no text in them loses anything when it is trimmed
(`Trimmed`); settings that pass the check never do (`trimmed_of_check`).
-/

set_option autoImplicit false

namespace Tenancy.Settings

open Text

/-! ## Spellings -/

/-- The words for a flag, in lower case; nothing at all is one of those for off. -/
def flagWords : Bool → List String
  | true => ["1", "true", "yes", "on"]
  | false => ["0", "false", "no", "off", ""]

/-- A flag as a word in any letter case with white space around it. -/
inductive SpellsFlag (b : Bool) : String → Prop
  | intro {word front letters back : String} (hword : word ∈ flagWords b)
    (hfront : ∀ c ∈ front.toList, isBlank c = true)
    (hletters : AlikeInCase letters.toList word.toList)
    (hback : ∀ c ∈ back.toList, isBlank c = true) : SpellsFlag b (front ++ (letters ++ back))

/-- A default tenant as it is; none as white space. -/
def SpellsTenant : Option String → String → Prop
  | some t, raw => raw = t
  | none, raw => ∀ c ∈ raw.toList, isBlank c = true

/-- What a variable says of settings: texts stand as they are, a capacity in decimal. -/
def Spells (s : Settings) : Variable → String → Prop
  | .tenantHeader, raw => raw = s.tenantHeader
  | .subdomainRouting, raw => SpellsFlag s.subdomainRouting raw
  | .defaultTenant, raw => SpellsTenant s.defaultTenant raw
  | .impersonationHeader, raw => raw = s.impersonationHeader
  | .strict, raw => SpellsFlag s.strict raw
  | .listUnscoped, raw => SpellsFlag s.listUnscoped raw
  | .memoCapacity, raw => raw = toString s.memoCapacity
  | .fallbackSchema, raw => raw = s.fallbackSchema

/-- Whether the setting of a variable is what it is where nothing is set. -/
def IsDefault (s : Settings) : Variable → Prop
  | .tenantHeader => s.tenantHeader = default.tenantHeader
  | .subdomainRouting => s.subdomainRouting = default.subdomainRouting
  | .defaultTenant => s.defaultTenant = default.defaultTenant
  | .impersonationHeader => s.impersonationHeader = default.impersonationHeader
  | .strict => s.strict = default.strict
  | .listUnscoped => s.listUnscoped = default.listUnscoped
  | .memoCapacity => s.memoCapacity = default.memoCapacity
  | .fallbackSchema => s.fallbackSchema = default.fallbackSchema

/-- Variables that spell settings out. -/
structure SpelledOut (s : Settings) (lookup : String → Option String) : Prop where
  set : ∀ v raw, lookup v.name = some raw → Spells s v raw
  unset : ∀ v, lookup v.name = none → IsDefault s v

/-! ## Every settings can be spelled out -/

theorem SpellsFlag.word {b : Bool} {word : String} (h : word ∈ flagWords b) : SpellsFlag b word := by
  have hspells : SpellsFlag b ("" ++ (word ++ "")) := .intro h (by simp) rfl (by simp)
  rwa [String.append_empty, String.empty_append] at hspells

/-- All variables. -/
def Variable.all : List Variable :=
  [.tenantHeader, .subdomainRouting, .defaultTenant, .impersonationHeader, .strict, .listUnscoped,
    .memoCapacity, .fallbackSchema]

/-- A setting as its variable gives it. -/
def written (s : Settings) : Variable → String
  | .tenantHeader => s.tenantHeader
  | .subdomainRouting => toString s.subdomainRouting
  | .defaultTenant => s.defaultTenant.getD ""
  | .impersonationHeader => s.impersonationHeader
  | .strict => toString s.strict
  | .listUnscoped => toString s.listUnscoped
  | .memoCapacity => toString s.memoCapacity
  | .fallbackSchema => s.fallbackSchema

/-- All settings as variables. -/
def writtenOut (s : Settings) (name : String) : Option String :=
  (Variable.all.find? (·.name == name)).map (written s)

theorem spelledOut_writtenOut (s : Settings) : SpelledOut s (writtenOut s) := by
  have hlookup (v : Variable) : writtenOut s v.name = some (written s v) := by
    cases v <;> rfl
  have hflag (b : Bool) : SpellsFlag b (toString b) := .word (by cases b <;> decide)
  refine ⟨fun v raw hraw => ?_, fun v hnone => ?_⟩
  · obtain rfl : written s v = raw := Option.some.inj ((hlookup v).symm.trans hraw)
    cases v with
    | tenantHeader | impersonationHeader | memoCapacity | fallbackSchema => rfl
    | subdomainRouting | strict | listUnscoped => exact hflag _
    | defaultTenant =>
      unfold Spells written
      cases s.defaultTenant with
      | none => exact fun c hc => absurd hc List.not_mem_nil
      | some t => rfl
  · exact absurd ((hlookup v).symm.trans hnone) (by simp)

/-! ## Texts without white space around them -/

/-- Settings whose texts are their own trimming, none of which is a blank default tenant. -/
structure Trimmed (s : Settings) : Prop where
  tenantHeader : trim s.tenantHeader = s.tenantHeader
  impersonationHeader : trim s.impersonationHeader = s.impersonationHeader
  fallbackSchema : trim s.fallbackSchema = s.fallbackSchema
  defaultTenant : ∀ t, s.defaultTenant = some t → trim t = t
  defaultTenant_not_blank : ∀ t, s.defaultTenant = some t → t ≠ ""

theorem isBlank_of_isIdChar {c : Char} (h : TenantId.isIdChar c = true) : isBlank c = false :=
  of_forall_ascii (p := fun c => TenantId.isIdChar c = true → isBlank c = false) c
    (toNat_lt_of_isIdChar h) (by decide) h

theorem isBlank_of_isHeaderChar {c : Char} (h : isHeaderChar c = true) : isBlank c = false := by
  rcases Bool.or_eq_true_iff.mp h with halnum | hmark
  · refine isBlank_of_isIdChar ?_
    simp [TenantId.isIdChar, halnum]
  · have hmarks : ∀ c ∈ headerMarks, isBlank c = false := forall_mem_of_all (by decide)
    exact hmarks c (List.contains_iff_mem.mp hmark)

theorem trim_of_isValidText {s : String} (h : TenantId.isValidText s = true) : trim s = s :=
  trim_eq_self fun c hc => isBlank_of_isIdChar ((TenantId.isValidText_iff.mp h).2.2 c hc)

theorem trim_of_isHeaderName {s : String} (h : isHeaderName s = true) : trim s = s := by
  refine trim_eq_self fun c hc => isBlank_of_isHeaderChar ?_
  simp only [isHeaderName, Bool.and_eq_true, List.all_eq_true] at h
  exact h.2 c hc

theorem trimmed_of_check {s : Settings} (h : s.check = .ok ()) : Trimmed s := by
  obtain ⟨htenant, himpersonation, hdefault, -, hschema⟩ := check_eq_ok_iff.mp h
  refine ⟨trim_of_isHeaderName htenant, trim_of_isHeaderName himpersonation,
    trim_of_isValidText hschema, fun t ht => trim_of_isValidText (hdefault t ht), ?_⟩
  rintro _ ht rfl
  exact absurd (hdefault "" ht) (by decide)

/-! ## Reading -/

/-- The words are in lower case and hold no white space. -/
theorem flagWords_plain (b : Bool) : ∀ word ∈ flagWords b,
    word.toList.map Char.toLower = word.toList ∧ ∀ c ∈ word.toList, isBlank c = false := by
  have hall : ∀ word ∈ flagWords b, word.toList.map Char.toLower = word.toList ∧
      word.toList.all (fun c => decide (isBlank c = false)) = true := by
    cases b <;> decide
  exact fun word hword => ⟨(hall word hword).1, forall_mem_of_all (hall word hword).2⟩

theorem flag_of_mem_flagWords {b : Bool} {raw : String} (v : Variable)
    (h : lowerAscii (trim raw) ∈ flagWords b) : flag v raw = .ok b := by
  unfold flag
  generalize lowerAscii (trim raw) = word at h
  cases b with
  | true =>
    simp only [flagWords, List.mem_cons, List.not_mem_nil, or_false] at h
    rcases h with rfl | rfl | rfl | rfl <;> rfl
  | false =>
    simp only [flagWords, List.mem_cons, List.not_mem_nil, or_false] at h
    rcases h with rfl | rfl | rfl | rfl | rfl <;> rfl

theorem mem_flagWords_of_flag {b : Bool} {raw : String} {v : Variable} (h : flag v raw = .ok b) :
    lowerAscii (trim raw) ∈ flagWords b := by
  unfold flag at h
  dsimp only at h
  split at h
  · next hword =>
    cases h
    exact List.contains_iff_mem.mp hword
  · split at h
    · next hword =>
      cases h
      exact List.contains_iff_mem.mp hword
    · cases h

theorem flag_of_spellsFlag {b : Bool} {raw : String} (h : SpellsFlag b raw) (v : Variable) :
    flag v raw = .ok b := by
  obtain @⟨word, front, letters, back, hword, hfront, hletters, hback⟩ := h
  obtain ⟨hlower, hplain⟩ := flagWords_plain b word hword
  have hletter : letters.toList.map Char.toLower = word.toList := by
    rw [← hlower]
    exact hletters
  -- no letter is white space, since its lower case stands in the word
  have hnone : ∀ c ∈ letters.toList, isBlank c = false := fun c hc => by
    have hsame : isBlank c.toLower = isBlank c :=
      eq_toLower_of_forall_ascii (by decide +kernel) c
    rw [← hsame]
    exact hplain _ (hletter ▸ List.mem_map_of_mem hc)
  refine flag_of_mem_flagWords v ?_
  rw [trim_padded hfront hback, trim_eq_self hnone, lowerAscii, hletter, String.ofList_toList]
  exact hword

/-- **A flag is read from its spellings and from nothing else.** -/
theorem flag_eq_ok_iff {b : Bool} {raw : String} (v : Variable) :
    flag v raw = .ok b ↔ SpellsFlag b raw := by
  refine ⟨fun h => ?_, fun h => flag_of_spellsFlag h v⟩
  have hword := mem_flagWords_of_flag h
  obtain ⟨front, back, hfront, hback, hraw⟩ := exists_eq_padded raw.toList
  have hpadded : raw = String.ofList front ++ (trim raw ++ String.ofList back) := by
    rw [← String.toList_inj]
    simpa [toList_trim] using hraw
  rw [hpadded]
  refine .intro hword ?_ ?_ ?_
  · rwa [String.toList_ofList]
  · rw [AlikeInCase, lowerAscii, String.toList_ofList, map_toLower_map_toLower]
  · rwa [String.toList_ofList]

theorem nonBlank?_of_spellsTenant {tenant : Option String} {raw : String}
    (h : SpellsTenant tenant raw) (htrim : ∀ t, tenant = some t → trim t = t)
    (hblank : ∀ t, tenant = some t → t ≠ "") : nonBlank? raw = tenant := by
  cases tenant with
  | none => rw [nonBlank?, if_pos (trim_eq_empty h)]
  | some t =>
    obtain rfl : raw = t := h
    simp only [nonBlank?, htrim raw rfl, if_neg (hblank raw rfl)]

section Reading

variable {s : Settings} {lookup : String → Option String}

/-- A setting is what its variable spells, or its default where that is not set. -/
theorem SpelledOut.setting_eq (h : SpelledOut s lookup) {α : Type} {v : Variable} {unset x : α}
    {read : String → Except SettingsError α} (hset : ∀ raw, Spells s v raw → read raw = .ok x)
    (hunset : IsDefault s v → x = unset) : setting lookup v unset read = .ok x := by
  unfold setting
  cases hlookup : lookup v.name with
  | none => exact congrArg Except.ok (hunset (h.unset v hlookup)).symm
  | some raw => exact hset raw (h.set v raw hlookup)

theorem SpelledOut.text_setting (h : SpelledOut s lookup) {v : Variable} {unset x : String}
    (htrim : trim x = x) (hset : ∀ raw, Spells s v raw → raw = x)
    (hunset : IsDefault s v → x = unset) :
    setting lookup v unset (fun raw => .ok (trim raw)) = .ok x :=
  h.setting_eq (fun raw hraw => by rw [hset raw hraw, htrim]) hunset

theorem SpelledOut.flag_setting (h : SpelledOut s lookup) {v : Variable} {unset x : Bool}
    (hset : ∀ raw, Spells s v raw → SpellsFlag x raw) (hunset : IsDefault s v → x = unset) :
    setting lookup v unset (flag v) = .ok x :=
  h.setting_eq (fun raw hraw => (flag_eq_ok_iff v).mpr (hset raw hraw)) hunset

theorem capacity_toString {n : Nat} (hn : n ≤ Natural.max64) (v : Variable) :
    capacity v (toString n) = .ok n := by
  have htrim : trim (toString n) = toString n := by
    refine trim_eq_self fun c hc => isBlank_of_isDigit ?_
    rw [Nat.toString_eq_repr, Nat.toList_repr] at hc
    exact Decimal.isDigit_of_mem_toDigits hc
  rw [capacity, htrim, Decimal.parse_toString hn]

/-- **Variables that spell settings out are read as these settings.** -/
theorem SpelledOut.readVariables_eq (h : SpelledOut s lookup) (htrimmed : Trimmed s)
    (hcapacity : s.memoCapacity ≤ Natural.max64) : readVariables lookup = .ok s := by
  have htenant : setting lookup .defaultTenant default.defaultTenant
      (fun raw => .ok (nonBlank? raw)) = .ok s.defaultTenant := by
    refine h.setting_eq (fun raw hraw => congrArg Except.ok ?_) id
    exact nonBlank?_of_spellsTenant hraw htrimmed.defaultTenant htrimmed.defaultTenant_not_blank
  have hmemo : setting lookup .memoCapacity default.memoCapacity (capacity .memoCapacity) =
      .ok s.memoCapacity := by
    refine h.setting_eq (fun raw hraw => ?_) id
    obtain rfl : raw = toString s.memoCapacity := hraw
    exact capacity_toString hcapacity _
  unfold readVariables
  dsimp only
  rw [h.text_setting htrimmed.tenantHeader (fun _ => id) id,
    h.flag_setting (v := .subdomainRouting) (fun _ => id) id, htenant,
    h.text_setting htrimmed.impersonationHeader (fun _ => id) id,
    h.flag_setting (v := .strict) (fun _ => id) id,
    h.flag_setting (v := .listUnscoped) (fun _ => id) id, hmemo,
    h.text_setting htrimmed.fallbackSchema (fun _ => id) id]
  rfl

theorem SpelledOut.ofVariables_eq (h : SpelledOut s lookup) (htrimmed : Trimmed s)
    (hcapacity : s.memoCapacity ≤ Natural.max64) :
    ofVariables lookup = s.check.map fun _ => s := by
  rw [ofVariables, h.readVariables_eq htrimmed hcapacity]
  cases hcheck : s.check <;> simp [bind, Except.bind, hcheck, pure, Except.pure, Except.map]

end Reading

end Tenancy.Settings
