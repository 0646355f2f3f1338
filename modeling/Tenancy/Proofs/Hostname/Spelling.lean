import Tenancy.Proofs.Hostname.Labels

/-!
# Spellings of a host name

A name in ASCII may be written in capital letters, with a port behind it and white space around it.
Every step of reading a host commutes with that: cutting at dots and telling addresses do not look at
letters, and the label is put in lower case at the end. So all spellings of a name are read alike, and
of a name with three labels or more that is no address nothing counts but the first label
(`named_by_first_label`).
-/

set_option autoImplicit false

namespace Tenancy.Hostname

open Text

/-! ## Names in lower case -/

/-- The characters of names in ASCII: no colon, no bracket, no white space. -/
def isNameChar (c : Char) : Bool :=
  c.toNat < 0x80 && c != ':' && c != '[' && !isBlank c

/-- A name in ASCII. -/
def IsName (name : List Char) : Prop := ∀ c ∈ name, isNameChar c = true

instance (name : List Char) : Decidable (IsName name) :=
  decidable_of_iff (name.all isNameChar = true) List.all_eq_true

theorem isNameChar_toLower (c : Char) : isNameChar c.toLower = isNameChar c :=
  eq_toLower_of_forall_ascii (by decide) c

theorem isName_map_toLower {name : List Char} : IsName (name.map Char.toLower) ↔ IsName name := by
  simp [IsName, isNameChar_toLower]

theorem IsName.isPlain {name : List Char} (h : IsName name) : IsPlain name where
  colon hmem := absurd (h ':' hmem) (by decide)
  bracket hmem := absurd (h '[' hmem) (by decide)
  blank c hc := by
    have hchar := h c hc
    simp only [isNameChar, Bool.and_eq_true, Bool.not_eq_true'] at hchar
    exact hchar.2

theorem IsName.ascii {name : List Char} (h : IsName name) : ∀ c ∈ name, c.toNat < 0x80 := by
  intro c hc
  have hchar := h c hc
  simp only [isNameChar, Bool.and_eq_true, decide_eq_true_eq] at hchar
  exact hchar.1.1.1

theorem toLower_eq_dot_iff (c : Char) : c.toLower = '.' ↔ c = '.' :=
  iff_of_eq (eq_toLower_of_forall_ascii (f := (· = '.')) (by decide) c)

/-- Addresses have no letters, so capitals neither make one nor spoil one. -/
theorem ipv4?_map_toLower (cs : List Char) : Net.ipv4? (cs.map Char.toLower) = Net.ipv4? cs := by
  by_cases hcs : ∀ c ∈ cs, c = '.' ∨ c.isDigit = true
  · have hself : cs.map Char.toLower = cs := by
      rw [List.map_congr_left (g := id), List.map_id]
      intro c hc
      rcases hcs c hc with rfl | hdigit
      · rfl
      · refine toLower_of_not_isUpper ?_
        have := isDigit_iff_toNat.mp hdigit
        rw [Bool.eq_false_iff, ne_eq, isUpper_iff_toNat]
        omega
    rw [hself]
  · have hdigit (c : Char) : c.toLower.isDigit = c.isDigit :=
      eq_toLower_of_forall_ascii (by decide) c
    have hnone : Net.ipv4? cs = none :=
      Option.eq_none_iff_forall_ne_some.mpr fun os h => hcs (Net.of_mem_ipv4? h)
    rw [hnone, Option.eq_none_iff_forall_ne_some]
    intro os h
    refine hcs fun c hc => ?_
    have hlower := Net.of_mem_ipv4? h c.toLower (List.mem_map_of_mem hc)
    rwa [toLower_eq_dot_iff, hdigit] at hlower

theorem upTo_map_toLower (cs : List Char) :
    upTo '.' (cs.map Char.toLower) = (upTo '.' cs).map Char.toLower := by
  rw [upTo, upTo, List.takeWhile_map]
  congr 2
  funext c
  simp [toLower_eq_dot_iff]

theorem label?_map_toLower {first : List Char} (h : ∀ c ∈ first, c.toNat < 0x80) :
    label? (first.map Char.toLower) = label? first := by
  have hlower : ∀ c ∈ first.map Char.toLower, c.toNat < 0x80 := by
    intro c hc
    obtain ⟨d, hd, rfl⟩ := List.mem_map.mp hc
    have hall : d.toLower.toNat < 0x80 :=
      of_forall_ascii (p := fun c => c.toLower.toNat < 0x80) d (h d hd) (by decide)
    exact hall
  rw [label?, label?, lowerChars_of_ascii h, lowerChars_of_ascii hlower, map_toLower_map_toLower]

/-- **A name is read like its lower case.** -/
theorem subdomainOf?_map_toLower {name : List Char} (h : IsName name) :
    subdomainOf? (name.map Char.toLower) = subdomainOf? name := by
  have hlabel : ∀ c ∈ upTo '.' name, c.toNat < 0x80 := fun c hc => h.ascii c (mem_of_mem_upTo hc)
  have hlength : (pieces '.' (name.map Char.toLower)).length = (pieces '.' name).length := by
    rw [pieces_map toLower_eq_dot_iff, List.length_map]
  rw [subdomainOf?_eq, subdomainOf?_eq, isAddress_of_isPlain h.isPlain,
    isAddress_of_isPlain (isName_map_toLower.mpr h).isPlain, ipv4?_map_toLower, hlength,
    upTo_map_toLower, label?_map_toLower hlabel]

/-! ## Spellings -/

/-- The ways to write a name: in any case of its letters, with a port behind it and white space
around it. -/
inductive Spells (name : String) : String → Prop
  | intro {front letters port back : String} (hfront : ∀ c ∈ front.toList, isBlank c = true)
    (hletters : AlikeInCase letters.toList name.toList) (hport : IsPort port.toList)
    (hback : ∀ c ∈ back.toList, isBlank c = true) : Spells name (front ++ (letters ++ port ++ back))

theorem IsName.of_alikeInCase {name name' : List Char} (h : IsName name)
    (halike : AlikeInCase name' name) : IsName name' :=
  isName_map_toLower.mp (halike ▸ isName_map_toLower.mpr h)

theorem subdomainOf?_of_alikeInCase {name name' : List Char} (h : IsName name)
    (halike : AlikeInCase name' name) : subdomainOf? name' = subdomainOf? name := by
  rw [← subdomainOf?_map_toLower h, ← subdomainOf?_map_toLower (h.of_alikeInCase halike), halike]

theorem subdomain?_of_isName {name : String} (h : IsName name.toList) :
    subdomain? name = subdomainOf? name.toList := by
  have hport : IsPort "".toList := trivial
  rw [← subdomain?_append h.isPlain hport, String.append_empty]

/-- **All spellings of a name are read alike.** -/
theorem subdomain?_of_spells {name host : String} (hname : IsName name.toList)
    (h : Spells name host) : subdomain? host = subdomain? name := by
  cases h with
  | @intro front letters port back hfront hletters hport hback =>
    have hplain := (hname.of_alikeInCase hletters).isPlain
    have hinside : subdomain? (front ++ (letters ++ port ++ back)) = subdomain? (letters ++ port) := by
      rw [subdomain?, subdomain?, String.toList_append, String.toList_append,
        trimChars_padded hfront hback]
    rw [hinside, subdomain?_append hplain hport, subdomainOf?_of_alikeInCase hname hletters,
      subdomain?_of_isName hname]

/-! ## The first label -/

/-- The first label of a name in lower case. -/
def firstLabel (name : String) : String := String.ofList ((upTo '.' name.toList).map Char.toLower)

/-- A name that has labels enough to name a tenant: three at least, and it is no address. -/
structure IsDeep (name : String) : Prop where
  labels : 3 ≤ (pieces '.' name.toList).length
  address : Net.ipv4? name.toList = none

theorem dot_not_mem_firstLabel (name : String) : '.' ∉ (firstLabel name).toList := by
  rw [firstLabel, String.toList_ofList]
  intro hmem
  obtain ⟨c, hc, hdot⟩ := List.mem_map.mp hmem
  exact not_mem_upTo '.' name.toList ((toLower_eq_dot_iff c).mp hdot ▸ hc)

/-- What a deep name names is its first label, if that may name anything. -/
theorem subdomain?_eq_some_iff {name t : String} (hname : IsName name.toList) (hdeep : IsDeep name) :
    subdomain? name = some t ↔ t = firstLabel name ∧ t ≠ "" ∧ t ∉ reserved := by
  have hascii : ∀ c ∈ upTo '.' name.toList, c.toNat < 0x80 := fun c hc =>
    hname.ascii c (mem_of_mem_upTo hc)
  have hlabels : ¬(pieces '.' name.toList).length ≤ 2 := Nat.not_le_of_lt hdeep.labels
  have hread : subdomain? name = label? (upTo '.' name.toList) := by
    rw [subdomain?_of_isName hname, subdomainOf?_eq, isAddress_of_isPlain hname.isPlain,
      hdeep.address]
    exact if_neg (by simpa using hlabels)
  rw [hread, label?, lowerChars_of_ascii hascii, ← firstLabel]
  by_cases hnone : firstLabel name = "" ∨ firstLabel name ∈ reserved
  · simp only [Bool.or_eq_true, decide_eq_true_eq, List.contains_iff_mem, hnone, if_true]
    refine iff_of_false (by simp) ?_
    rintro ⟨rfl, hne, hmem⟩
    exact hnone.elim hne hmem
  · obtain ⟨hne, hmem⟩ := not_or.mp hnone
    simp only [Bool.or_eq_true, decide_eq_true_eq, List.contains_iff_mem, hnone, if_false,
      Option.some.injEq]
    exact ⟨fun h => h ▸ ⟨rfl, hne, hmem⟩, fun h => h.1.symm⟩

/-- **A name is read alike in all its spellings, and of names that are deep enough only the first
label counts**: two with the same first label in any case name the same, and what they name is that
label in lower case, unless it is empty or reserved. -/
theorem named_by_first_label :
    (∀ name host : String, IsName name.toList → Spells name host →
      subdomain? host = subdomain? name) ∧
    ∀ name name' : String, IsName name.toList → IsName name'.toList → IsDeep name → IsDeep name' →
      AlikeInCase (upTo '.' name.toList) (upTo '.' name'.toList) →
      subdomain? name = subdomain? name' ∧ '.' ∉ (firstLabel name).toList ∧
        ∀ t, subdomain? name = some t ↔ t = firstLabel name ∧ t ≠ "" ∧ t ∉ reserved := by
  refine ⟨fun name host hname hspells => subdomain?_of_spells hname hspells, ?_⟩
  intro name name' hname hname' hdeep hdeep' halike
  have hlabel : firstLabel name = firstLabel name' := congrArg String.ofList halike
  refine ⟨Option.ext fun t => ?_, dot_not_mem_firstLabel name,
    fun t => subdomain?_eq_some_iff hname hdeep⟩
  rw [subdomain?_eq_some_iff hname hdeep, subdomain?_eq_some_iff hname' hdeep', hlabel]

/-- A name in capitals with a port between blanks, and another name with the same first label. -/
theorem named_by_first_label_sample :
    let name := "shop-1.example.com"
    let host := "\t " ++ ("SHOP-1.Example.com" ++ ":8080" ++ " ")
    let name' := "Shop-1..internal"
    IsName name.toList ∧ Spells name host ∧ IsName name'.toList ∧ IsDeep name ∧ IsDeep name' ∧
      subdomain? host = some "shop-1" ∧ subdomain? name' = some "shop-1" := by
  intro name host name'
  have hname : IsName name.toList := by decide
  have hname' : IsName name'.toList := by decide
  have hdeep : IsDeep name := ⟨by decide, by decide⟩
  have hdeep' : IsDeep name' := ⟨by decide, by decide⟩
  have hspells : Spells name host :=
    .intro (forall_mem_of_all (by decide)) (by decide) (by decide) (forall_mem_of_all (by decide))
  have hhost := named_by_first_label.1 name host hname hspells
  obtain ⟨halike, -, hlabel⟩ :=
    named_by_first_label.2 name name' hname hname' hdeep hdeep' (by decide)
  have hread : subdomain? name = some "shop-1" := (hlabel "shop-1").mpr (by decide)
  exact ⟨hname, hspells, hname', hdeep, hdeep', hhost.trans hread, halike.symm.trans hread⟩

end Tenancy.Hostname
