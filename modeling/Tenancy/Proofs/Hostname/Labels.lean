import Tenancy.Hostname
import Tenancy.Proofs.Net.Literal
import Tenancy.Proofs.Text.Decimal

/-!
# Ports, labels and the root dot

A host name may have a port behind it, and the dot of the root behind its last label. The port has no
say in the tenant (`subdomain?_append`). The root dot has, for two reasons: labels are counted as the
pieces between dots, so the nothing behind the root dot counts as one more, and an IPv4 address with a
dot behind it is no address. `root_dot_ignored_iff` says which names are read alike with the root dot
and without it.
-/

set_option autoImplicit false

namespace Tenancy.Hostname

open Text

/-! ## Ports -/

/-- What may stand behind a name: nothing, or a colon and digits. -/
def IsPort : List Char → Prop
  | [] => True
  | c :: digits => c = ':' ∧ digits.all Char.isDigit = true

instance : DecidablePred IsPort
  | [] => isTrue trivial
  | c :: digits => inferInstanceAs (Decidable (c = ':' ∧ digits.all Char.isDigit = true))

theorem IsPort.isBlank {port : List Char} (h : IsPort port) : ∀ c ∈ port, isBlank c = false := by
  cases port with
  | nil => simp
  | cons c digits =>
    obtain ⟨rfl, hdigits⟩ := h
    rw [List.all_eq_true] at hdigits
    exact List.forall_mem_cons.mpr ⟨by decide, fun c hc => isBlank_of_isDigit (hdigits c hc)⟩

theorem withoutPort_of_bracket {cs : List Char} (h : cs.head? = some '[') :
    withoutPort cs = cs := by
  rw [withoutPort, if_pos h]

/-- A port is cut off from what has no colons. -/
theorem withoutPort_append {name port : List Char} (hbracket : name.head? ≠ some '[')
    (hcolon : ':' ∉ name) (hport : IsPort port) : withoutPort (name ++ port) = name := by
  cases port with
  | nil => rw [List.append_nil, withoutPort, if_neg hbracket, cutLast_eq_none_iff.mpr hcolon]
  | cons c digits =>
    obtain ⟨rfl, hdigits⟩ := hport
    have hhead : (name ++ ':' :: digits).head? ≠ some '[' := by
      cases name with
      | nil => simp
      | cons c name => exact hbracket
    have hnew : ':' ∉ digits := fun h =>
      absurd (List.all_eq_true.mp hdigits ':' h) (by decide)
    rw [withoutPort, if_neg hhead, cutLast_append_cons name hnew]
    exact if_pos hdigits

/-! ## Names -/

/-- The text of a name or of an IPv4 address: no colon, no bracket, no white space. -/
structure IsPlain (name : List Char) : Prop where
  colon : ':' ∉ name
  bracket : '[' ∉ name
  blank : ∀ c ∈ name, isBlank c = false

theorem IsPlain.append {name name' : List Char} (h : IsPlain name) (h' : IsPlain name') :
    IsPlain (name ++ name') where
  colon := by simp [h.colon, h'.colon]
  bracket := by simp [h.bracket, h'.bracket]
  blank := List.forall_mem_append.mpr ⟨h.blank, h'.blank⟩

theorem IsPlain.head?_ne {name : List Char} (h : IsPlain name) : name.head? ≠ some '[' :=
  fun hhead => h.bracket (List.mem_of_mem_head? hhead)

theorem isPlain_iff {name : List Char} :
    IsPlain name ↔ ':' ∉ name ∧ '[' ∉ name ∧ name.all (fun c => !isBlank c) = true := by
  simp only [List.all_eq_true, Bool.not_eq_true']
  exact ⟨fun h => ⟨h.colon, h.bracket, h.blank⟩, fun ⟨h, h', h''⟩ => ⟨h, h', h''⟩⟩

instance (name : List Char) : Decidable (IsPlain name) := decidable_of_iff _ isPlain_iff.symm

theorem isPlain_dot : IsPlain ['.'] := by decide

/-- **A port behind a name has no say in what the name names.** -/
theorem subdomain?_append {name port : String} (hname : IsPlain name.toList)
    (hport : IsPort port.toList) : subdomain? (name ++ port) = subdomainOf? name.toList := by
  have hblank : ∀ c ∈ name.toList ++ port.toList, isBlank c = false :=
    List.forall_mem_append.mpr ⟨hname.blank, hport.isBlank⟩
  rw [subdomain?, String.toList_append, trimChars_of_all_not hblank,
    withoutPort_append hname.head?_ne hname.colon hport]

/-- A name that is no address is named after its first label, if there are three at least. -/
theorem subdomainOf?_eq (cs : List Char) :
    subdomainOf? cs =
      if Net.isAddress cs = true ∨ (pieces '.' cs).length ≤ 2 then none
      else label? (upTo '.' cs) := by
  unfold subdomainOf?
  by_cases haddress : Net.isAddress cs = true
  · rw [if_pos haddress, if_pos (.inl haddress)]
  · rw [if_neg haddress]
    obtain ⟨ps, hps⟩ := exists_pieces_eq_upTo_cons '.' cs
    rw [hps]
    match ps with
    | [] => simp
    | [_] => simp
    | _ :: _ :: _ => simp [haddress]

theorem isAddress_of_isPlain {cs : List Char} (h : IsPlain cs) :
    Net.isAddress cs = (Net.ipv4? cs).isSome := by
  simp [Net.isAddress, Net.ipv6?_of_colon_not_mem h.colon]

/-! ## The root dot -/

/-- Digits are no reserved label. -/
theorem label?_ne_none_of_isDigit {cs : List Char} (hne : cs ≠ [])
    (hdigits : ∀ c ∈ cs, c.isDigit = true) : label? cs ≠ none := by
  have hrange : ∀ c ∈ cs, 48 ≤ c.toNat ∧ c.toNat ≤ 57 := fun c hc =>
    isDigit_iff_toNat.mp (hdigits c hc)
  have hascii : ∀ c ∈ cs, c.toNat < 0x80 := fun c hc =>
    Nat.lt_of_le_of_lt (hrange c hc).2 (by decide)
  have hupper : ∀ c ∈ cs, c.isUpper = false := fun c hc => by
    have := hrange c hc
    rw [Bool.eq_false_iff, ne_eq, isUpper_iff_toNat]
    omega
  have hempty : String.ofList cs ≠ "" := fun h => hne (by simpa using congrArg String.toList h)
  have hreserved : String.ofList cs ∉ reserved := fun hmem => by
    have hletters : ∀ t ∈ reserved, t.toList.all Char.isDigit = false := by decide
    have hnumber := hletters _ hmem
    rw [String.toList_ofList, List.all_eq_true.mpr hdigits] at hnumber
    exact absurd hnumber (by decide)
  simp [label?, lowerChars_eq_self hascii hupper, hempty, hreserved]

theorem label?_ne_none_of_ipv4? {cs : List Char} {os : List Nat} (h : Net.ipv4? cs = some os) :
    label? (upTo '.' cs) ≠ none := by
  obtain ⟨ps, hps⟩ := exists_pieces_eq_upTo_cons '.' cs
  obtain ⟨n, hn⟩ := (Net.of_ipv4? h).2 (upTo '.' cs) (hps ▸ List.mem_cons_self)
  obtain ⟨hne, hdigits⟩ := Net.of_octet? hn
  exact label?_ne_none_of_isDigit hne hdigits

/-- The root dot counts as a label, and what it ends is no address. -/
theorem subdomainOf?_append_dot {cs : List Char} (h : IsPlain cs) :
    subdomainOf? (cs ++ ['.']) =
      if (pieces '.' cs).length ≤ 1 then none else label? (upTo '.' cs) := by
  have haddress : Net.isAddress (cs ++ ['.']) = false := by
    rw [isAddress_of_isPlain (h.append isPlain_dot), Net.ipv4?_append_dot]
    rfl
  have hlength : (pieces '.' (cs ++ ['.'])).length = (pieces '.' cs).length + 1 := by
    rw [pieces_append_sep]
    simp [pieces]
  simp [subdomainOf?_eq, haddress, hlength, upTo_append_sep]

/-- **A name is read alike with the root dot and without it exactly if it is neither an address nor
made of two labels, or if its first label names nothing in any case.** -/
theorem root_dot_ignored_iff {name port : String} (hname : IsPlain name.toList)
    (hport : IsPort port.toList) :
    subdomain? (name ++ "." ++ port) = subdomain? (name ++ port) ↔
      Net.ipv4? name.toList = none ∧ (pieces '.' name.toList).length ≠ 2 ∨
        label? (upTo '.' name.toList) = none := by
  have hdotted : (name ++ ".").toList = name.toList ++ ['.'] := String.toList_append
  rw [subdomain?_append (hdotted ▸ hname.append isPlain_dot) hport, subdomain?_append hname hport,
    hdotted, subdomainOf?_append_dot hname, subdomainOf?_eq, isAddress_of_isPlain hname]
  generalize name.toList = cs
  cases hv4 : Net.ipv4? cs with
  | some os =>
    have hlength := (Net.of_ipv4? hv4).1
    have hlabel := label?_ne_none_of_ipv4? hv4
    simp [hlength, hlabel]
  | none =>
    have hne := pieces_ne_nil '.' cs
    rcases hlength : (pieces '.' cs).length with _ | _ | _ | n
    · exact absurd (List.length_eq_zero_iff.mp hlength) hne
    · simp
    · simp
    · simp

/-- Three labels with a port: the root dot changes nothing. -/
theorem root_dot_ignored_iff_sample :
    IsPlain "Acme.example.com".toList ∧ IsPort ":8080".toList ∧
      subdomain? ("Acme.example.com" ++ "." ++ ":8080") = some "acme" ∧
      subdomain? ("Acme.example.com" ++ ":8080") = some "acme" := by
  have hname : IsPlain "Acme.example.com".toList := by decide
  have hport : IsPort ":8080".toList := by decide
  have hlabels : Net.ipv4? "Acme.example.com".toList = none ∧
      (pieces '.' "Acme.example.com".toList).length ≠ 2 := by decide
  have halike := (root_dot_ignored_iff hname hport).mpr (.inl hlabels)
  have hplain : subdomain? ("Acme.example.com" ++ ":8080") = some "acme" := by decide
  exact ⟨hname, hport, halike.trans hplain, hplain⟩

/-- A name of two labels and an address: with the root dot they name a tenant. -/
theorem root_dot_names_tenant :
    (IsPlain "example.com".toList ∧ IsPort "".toList ∧
      subdomain? ("example.com" ++ "." ++ "") = some "example" ∧
      subdomain? ("example.com" ++ "") = none) ∧
    (IsPlain "10.1.2.3".toList ∧ IsPort ":8080".toList ∧
      subdomain? ("10.1.2.3" ++ "." ++ ":8080") = some "10" ∧
      subdomain? ("10.1.2.3" ++ ":8080") = none) := by
  decide

end Tenancy.Hostname
