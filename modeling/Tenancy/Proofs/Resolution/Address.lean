import Tenancy.Proofs.Hostname.Labels
import Tenancy.Proofs.Resolution.Winner

/-!
# Hosts that are addresses

A request may be sent to an address in the place of a name. `SpellsAddress` lists the spellings: any
address by itself, an IPv4 address with a port, and an IPv6 address in brackets, with a port or
without. An address has dots of its own, and colons that are not those of a port, so what is left when
the port is cut off need not be the address any more: of an IPv6 address it can be the part in front
of its last group. That part has no dots, and what begins with a bracket is no valid id, so no address
names a tenant (`subdomain?_of_spellsAddress`), and such a host is as good as none
(`context_of_address_host`).
-/

set_option autoImplicit false

namespace Tenancy

namespace Hostname

open Text

/-- The ways in which a host spells an address. -/
inductive SpellsAddress : List Char → Prop
  | bare {cs : List Char} (address : Net.isAddress cs = true) : SpellsAddress cs
  | ported {cs port : List Char} (address : (Net.ipv4? cs).isSome = true) (hport : IsPort port) :
    SpellsAddress (cs ++ port)
  | bracketed {cs port : List Char} (address : (Net.ipv6? cs).isSome = true)
    (hport : IsPort port) : SpellsAddress ('[' :: cs ++ ']' :: port)

theorem subdomainOf?_of_isAddress {cs : List Char} (h : Net.isAddress cs = true) :
    subdomainOf? cs = none := by
  rw [subdomainOf?_eq, if_pos (.inl h)]

theorem subdomainOf?_of_dot_not_mem {cs : List Char} (h : '.' ∉ cs) : subdomainOf? cs = none := by
  rw [subdomainOf?_eq, pieces_of_not_mem h]
  exact if_pos (.inr (Nat.le_succ 1))

theorem isPlain_of_ipv4? {cs : List Char} {os : List Nat} (h : Net.ipv4? cs = some os) :
    IsPlain cs where
  colon hmem := by simpa using Net.of_mem_ipv4? h ':' hmem
  bracket hmem := by simpa using Net.of_mem_ipv4? h '[' hmem
  blank c hc := by
    rcases Net.of_mem_ipv4? h c hc with rfl | hdigit
    · decide
    · exact isBlank_of_isDigit hdigit

theorem subdomainOf?_withoutPort_of_ipv4? {cs port : List Char} {os : List Nat}
    (h : Net.ipv4? cs = some os) (hport : IsPort port) :
    subdomainOf? (withoutPort (cs ++ port)) = none := by
  have hplain := isPlain_of_ipv4? h
  rw [withoutPort_append hplain.head?_ne hplain.colon hport]
  exact subdomainOf?_of_isAddress (by simp [Net.isAddress, h])

/-- Whether its last group passes for a port or not, an IPv6 address has no label. -/
theorem subdomainOf?_withoutPort_of_ipv6? {cs : List Char} {gs : List Nat}
    (h : Net.ipv6? cs = some gs) : subdomainOf? (withoutPort cs) = none := by
  have haddress : Net.isAddress cs = true := by simp [Net.isAddress, h]
  have hbracket : cs.head? ≠ some '[' := fun hhead =>
    absurd (Net.of_mem_ipv6? h '[' (List.mem_of_mem_head? hhead)) (by decide)
  rw [withoutPort, if_neg hbracket]
  cases hcut : cutLast ':' cs with
  | none => exact subdomainOf?_of_isAddress haddress
  | some cut =>
    obtain ⟨front, back⟩ := cut
    dsimp only
    split
    · exact subdomainOf?_of_dot_not_mem (Net.dot_not_mem_of_ipv6? h hcut)
    · exact subdomainOf?_of_isAddress haddress

/-- What begins with a bracket keeps it in lower case, and so is no valid id. -/
theorem not_isValidText_of_label? {cs : List Char} {t : String}
    (h : label? ('[' :: cs) = some t) : TenantId.isValidText t = false := by
  unfold label? at h
  dsimp only at h
  split at h
  · cases h
  · obtain rfl := Option.some.inj h
    have hhead : '[' ∈ lowerChars ('[' :: cs) := List.mem_cons_self
    rw [Bool.eq_false_iff]
    intro hvalid
    obtain ⟨-, -, hid⟩ := TenantId.isValidText_iff.mp hvalid
    rw [String.toList_ofList] at hid
    exact absurd (hid '[' hhead) (by decide)

theorem filter_subdomainOf?_of_bracket (cs : List Char) :
    (subdomainOf? ('[' :: cs)).filter TenantId.isValidText = none := by
  have hfirst : upTo '.' ('[' :: cs) = '[' :: upTo '.' cs := rfl
  rw [subdomainOf?_eq, hfirst]
  split
  · rfl
  · rw [Option.filter_eq_none_iff]
    intro t ht
    rw [not_isValidText_of_label? ht]
    decide

/-- **No spelling of an address names a tenant.** -/
theorem subdomain?_of_spellsAddress {host : String}
    (h : SpellsAddress (trimChars host.toList)) :
    (subdomain? host).filter TenantId.isValidText = none := by
  rw [subdomain?]
  generalize trimChars host.toList = cs at h
  cases h with
  | bare address =>
    rcases Bool.or_eq_true_iff.mp address with hv4 | hv6
    · obtain ⟨os, hv4⟩ := Option.isSome_iff_exists.mp hv4
      have hport : IsPort [] := trivial
      rw [← List.append_nil cs, subdomainOf?_withoutPort_of_ipv4? hv4 hport]
      rfl
    · obtain ⟨gs, hv6⟩ := Option.isSome_iff_exists.mp hv6
      rw [subdomainOf?_withoutPort_of_ipv6? hv6]
      rfl
  | ported address hport =>
    obtain ⟨os, hv4⟩ := Option.isSome_iff_exists.mp address
    rw [subdomainOf?_withoutPort_of_ipv4? hv4 hport]
    rfl
  | @bracketed cs port =>
    rw [withoutPort_of_bracket rfl]
    exact filter_subdomainOf?_of_bracket (cs ++ ']' :: port)

end Hostname

namespace Resolution

/-- **A request that is sent to an address is resolved as if it named no host**, under any settings:
the host never wins, and the context is that of the same request without it. -/
theorem context_of_address_host {settings : Settings} {now : Instant} {signals : Signals}
    {principal : Option Principal} {memo memo' : TenantId.Memo} {host : String}
    (hhost : signals.host = some host)
    (haddress : Hostname.SpellsAddress (Text.trimChars host.toList))
    (hmemo : memo.Sound) (hmemo' : memo'.Sound) :
    (context settings now signals principal memo).source ≠ .subdomain ∧
      context settings now signals principal memo =
        context settings now { signals with host := none } principal memo' := by
  have hnone : (Evidence.of settings signals principal).named? .subdomain = none := by
    show ((if settings.subdomainRouting then signals.host else none).bind _).filter _ = none
    split
    · rw [hhost, Option.bind_some, Hostname.subdomain?_of_spellsAddress haddress]
    · rfl
  have hnone' :
      (Evidence.of settings { signals with host := none } principal).named? .subdomain = none := by
    show ((if settings.subdomainRouting then none else none).bind _).filter _ = none
    rw [ite_self]
    rfl
  rw [context_eq hmemo, context_eq hmemo', Evidence.source_contextOf]
  refine ⟨fun hsource => ?_, congrArg (contextOf now) (Evidence.winner_congr fun s => ?_)⟩
  · have hsourceNone := Evidence.named?_source_eq_none_iff.mp (hsource.symm ▸ hnone)
    exact absurd (hsource.symm.trans hsourceNone) (by decide)
  · cases s with
    | subdomain => rw [hnone, hnone']
    | _ => rfl

/-- An IPv4 address in the tail of an IPv6 one, in brackets and with a port: there are dots enough
for labels. -/
theorem context_of_address_host_sample :
    let settings := { Settings.default with
      subdomainRouting := true, defaultTenant := some "fallback" }
    let host := " [::ffff:10.0.0.1]:8080 "
    let signals : Signals := ⟨some host, none, none⟩
    let memo := TenantId.Memo.empty 2
    let c := context settings default signals none memo
    signals.host = some host ∧ Hostname.SpellsAddress (Text.trimChars host.toList) ∧ memo.Sound ∧
      Hostname.subdomain? host = some "[::ffff:10" ∧ c.source ≠ .subdomain ∧
      c = context settings default { signals with host := none } none memo := by
  have hport : Hostname.IsPort ":8080".toList := by decide
  have haddress : Hostname.SpellsAddress (Text.trimChars " [::ffff:10.0.0.1]:8080 ".toList) :=
    @Hostname.SpellsAddress.bracketed "::ffff:10.0.0.1".toList _ (by decide) hport
  exact ⟨rfl, haddress, TenantId.Memo.sound_empty 2, by decide,
    context_of_address_host rfl haddress (TenantId.Memo.sound_empty 2)
      (TenantId.Memo.sound_empty 2)⟩

end Resolution

end Tenancy
