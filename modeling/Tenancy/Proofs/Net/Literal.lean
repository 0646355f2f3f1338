import Tenancy.Proofs.Net.Address

/-!
# What written addresses are made of

Hosts are cut at colons and at dots, and an address is written with either. An IPv4 address has no
colons (`of_mem_ipv4?`), and an IPv6 address has dots behind its last colon only, where an IPv4
address may stand for its last two groups (`dot_not_mem_of_ipv6?`). So the two kinds are told apart by
the colon, and what is left of an IPv6 address when it is cut at its last colon has no dots.
-/

set_option autoImplicit false

namespace Tenancy.Net

open Text

/-! ## Digits -/

theorem of_octet? {cs : List Char} {n : Nat} (h : octet? cs = some n) :
    cs ≠ [] ∧ ∀ c ∈ cs, c.isDigit = true := by
  unfold octet? at h
  split at h
  · next hdigits => exact ⟨hdigits.1, List.all_eq_true.mp hdigits.2.2.1⟩
  · cases h

theorem isSome_hexDigit?_of_isDigit {c : Char} (h : c.isDigit = true) :
    (hexDigit? c).isSome = true := by
  rw [hexDigit?, if_pos h]
  rfl

theorem isSome_hexDigit?_of_mem_readHex {cs : List Char} {acc n : Nat}
    (h : readHex acc cs = some n) : ∀ c ∈ cs, (hexDigit? c).isSome = true := by
  induction cs generalizing acc with
  | nil => simp
  | cons c cs ih =>
    simp only [readHex, List.foldlM_cons, Option.bind_eq_bind] at h
    obtain ⟨next, hnext, h⟩ := Option.bind_eq_some_iff.mp h
    obtain ⟨d, hd, -⟩ := Option.map_eq_some_iff.mp hnext
    exact List.forall_mem_cons.mpr ⟨Option.isSome_of_mem hd, ih h⟩

theorem isSome_hexDigit?_of_mem_group? {cs : List Char} {g : Nat} (h : group? cs = some g) :
    ∀ c ∈ cs, (hexDigit? c).isSome = true := by
  rw [group?_eq] at h
  split at h
  · exact isSome_hexDigit?_of_mem_readHex h
  · cases h

/-! ## IPv4 -/

/-- An IPv4 address is four numbers between dots. -/
theorem of_ipv4? {cs : List Char} {os : List Nat} (h : ipv4? cs = some os) :
    (pieces '.' cs).length = 4 ∧ ∀ p ∈ pieces '.' cs, ∃ n, octet? p = some n := by
  unfold ipv4? at h
  dsimp only at h
  split at h
  · next hlength => exact ⟨hlength, exists_of_mem_mapM h⟩
  · cases h

theorem of_mem_ipv4? {cs : List Char} {os : List Nat} (h : ipv4? cs = some os) :
    ∀ c ∈ cs, c = '.' ∨ c.isDigit = true := by
  intro c hc
  rw [← intercalate_pieces '.' cs] at hc
  rcases mem_intercalate.mp hc with ⟨p, hp, hc⟩ | ⟨rfl, -⟩
  · obtain ⟨n, hn⟩ := (of_ipv4? h).2 p hp
    exact .inr ((of_octet? hn).2 c hc)
  · exact .inl rfl

/-- An empty piece is no number, so no IPv4 address ends in a dot. -/
theorem ipv4?_append_dot (cs : List Char) : ipv4? (cs ++ ['.']) = none := by
  rw [Option.eq_none_iff_forall_ne_some]
  intro os h
  have hmem : [] ∈ pieces '.' (cs ++ ['.']) := by
    rw [pieces_append_sep]
    exact List.mem_append_right _ List.mem_cons_self
  obtain ⟨n, hn⟩ := (of_ipv4? h).2 [] hmem
  exact (of_octet? hn).1 rfl

/-! ## IPv6 -/

/-- Pieces of hexadecimal digits, the last of which may hold dots as well. -/
structure DotsAtEnd (ps : List (List Char)) : Prop where
  digits : ∀ p ∈ ps, ∀ c ∈ p, (hexDigit? c).isSome = true ∨ c = '.'
  undotted : ∀ p ∈ ps.dropLast, '.' ∉ p

theorem DotsAtEnd.append {front back : List (List Char)}
    (hfront : ∀ p ∈ front, ∀ c ∈ p, (hexDigit? c).isSome = true) (hback : DotsAtEnd back)
    (hne : back ≠ []) : DotsAtEnd (front ++ back) where
  digits := List.forall_mem_append.mpr ⟨fun p hp c hc => .inl (hfront p hp c hc), hback.digits⟩
  undotted := by
    rw [List.dropLast_append_of_ne_nil hne]
    refine List.forall_mem_append.mpr ⟨fun p hp hdot => ?_, hback.undotted⟩
    exact absurd (hfront p hp '.' hdot) (by decide)

theorem of_mem_lastGroups? {cs : List Char} {gs : List Nat} (h : lastGroups? cs = some gs) :
    gs.length ≤ 2 ∧ ∀ c ∈ cs, (hexDigit? c).isSome = true ∨ c = '.' := by
  unfold lastGroups? at h
  split at h
  · next g hg =>
    cases h
    exact ⟨by simp, fun c hc => .inl (isSome_hexDigit?_of_mem_group? hg c hc)⟩
  · split at h
    · next hv4 =>
      cases h
      refine ⟨by simp, fun c hc => ?_⟩
      exact (of_mem_ipv4? hv4 c hc).symm.imp_left isSome_hexDigit?_of_isDigit
    · cases h

theorem dotsAtEnd_of_groups? {ps : List (List Char)} {gs : List Nat} (h : groups? ps = some gs) :
    DotsAtEnd ps := by
  induction ps using groups?.induct generalizing gs with
  | case1 => exact ⟨by simp, by simp⟩
  | case2 p => exact ⟨by simpa using (of_mem_lastGroups? h).2, by simp⟩
  | case3 p ps hps ih =>
    obtain ⟨g, rest, hg, hrest, -⟩ := of_groups?_cons hps h
    have hp : ∀ q ∈ [p], ∀ c ∈ q, (hexDigit? c).isSome = true :=
      List.forall_mem_singleton.mpr (isSome_hexDigit?_of_mem_group? hg)
    exact DotsAtEnd.append hp (ih hrest) hps

theorem dotsAtEnd_of_stretch? {cs : List Char} {gs : List Nat} (h : stretch? cs = some gs) :
    DotsAtEnd (pieces ':' cs) := by
  unfold stretch? at h
  split at h
  · next hnil =>
    rw [hnil]
    exact ⟨by simp [pieces], by simp [pieces]⟩
  · exact dotsAtEnd_of_groups? h

theorem of_mem_frontGroups? {cs : List Char} {gs : List Nat} (h : frontGroups? cs = some gs) :
    ∀ p ∈ pieces ':' cs, ∀ c ∈ p, (hexDigit? c).isSome = true := by
  unfold frontGroups? at h
  split at h
  · next hnil =>
    rw [hnil]
    simp [pieces]
  · intro p hp
    obtain ⟨g, hg⟩ := exists_of_mem_mapM h p hp
    exact isSome_hexDigit?_of_mem_group? hg

theorem of_cutDoubleColon {cs before after : List Char}
    (h : cutDoubleColon cs = some (before, after)) : cs = before ++ ':' :: ':' :: after := by
  induction cs generalizing before after with
  | nil => cases h
  | cons c cs ih =>
    unfold cutDoubleColon at h
    split at h
    · next hcolons =>
      cases h
      obtain ⟨rest, hrest⟩ := List.head?_eq_some_iff.mp hcolons.2
      rw [hcolons.1, hrest]
      rfl
    · obtain ⟨⟨a, b⟩, hab, heq⟩ := Option.map_eq_some_iff.mp h
      cases heq
      rw [ih hab]
      rfl

/-- **An IPv6 address is hexadecimal digits between colons, with dots in the last piece only.** -/
theorem dotsAtEnd_of_ipv6? {cs : List Char} {gs : List Nat} (h : ipv6? cs = some gs) :
    DotsAtEnd (pieces ':' cs) := by
  rcases of_ipv6? h with ⟨-, hread, -⟩ | ⟨before, after, _, _, hcut, hfront, hback, -, -⟩
  · exact dotsAtEnd_of_stretch? hread
  · -- the double colon leaves one more piece, an empty one
    have hpieces : pieces ':' cs = pieces ':' before ++ [[]] ++ pieces ':' after := by
      rw [of_cutDoubleColon hcut, pieces_append_sep, List.append_assoc]
      rfl
    have hdigits : ∀ p ∈ pieces ':' before ++ [[]], ∀ c ∈ p, (hexDigit? c).isSome = true :=
      List.forall_mem_append.mpr ⟨of_mem_frontGroups? hfront, by simp⟩
    rw [hpieces]
    exact DotsAtEnd.append hdigits (dotsAtEnd_of_stretch? hback) (pieces_ne_nil ':' after)

theorem of_mem_ipv6? {cs : List Char} {gs : List Nat} (h : ipv6? cs = some gs) :
    ∀ c ∈ cs, (hexDigit? c).isSome = true ∨ c = '.' ∨ c = ':' := by
  intro c hc
  rw [← intercalate_pieces ':' cs] at hc
  rcases mem_intercalate.mp hc with ⟨p, hp, hc⟩ | ⟨rfl, -⟩
  · exact ((dotsAtEnd_of_ipv6? h).digits p hp c hc).imp_right .inl
  · exact .inr (.inr rfl)

/-- **In front of the last colon of an IPv6 address there are no dots.** -/
theorem dot_not_mem_of_ipv6? {cs front back : List Char} {gs : List Nat} (h : ipv6? cs = some gs)
    (hcut : cutLast ':' cs = some (front, back)) : '.' ∉ front := by
  have hundotted := (dotsAtEnd_of_ipv6? h).undotted
  rw [(cutLast_eq_some hcut).1, pieces_append_sep,
    List.dropLast_append_of_ne_nil (pieces_ne_nil ':' back)] at hundotted
  rw [← intercalate_pieces ':' front]
  intro hdot
  rcases mem_intercalate.mp hdot with ⟨p, hp, hdot⟩ | ⟨heq, -⟩
  · exact hundotted p (List.mem_append_left _ hp) hdot
  · exact absurd heq (by decide)

/-- Without a colon there are two groups at most. -/
theorem ipv6?_of_colon_not_mem {cs : List Char} (h : ':' ∉ cs) : ipv6? cs = none := by
  rw [Option.eq_none_iff_forall_ne_some]
  intro gs hgs
  rcases of_ipv6? hgs with ⟨-, hread, height⟩ | ⟨before, after, _, _, hcut, -⟩
  · unfold stretch? at hread
    split at hread
    · cases hread
      exact absurd height (by decide)
    · rw [pieces_of_not_mem h] at hread
      have := (of_mem_lastGroups? hread).1
      omega
  · rw [of_cutDoubleColon hcut] at h
    simp at h

end Tenancy.Net
