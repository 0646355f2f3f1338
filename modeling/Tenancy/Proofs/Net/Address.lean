import Tenancy.Net.Address
import Tenancy.Proofs.Text.Split

/-!
# Reading written addresses

What is read as an IPv6 address is eight numbers below 65536 (`groupsOk_of_ipv6?`), and these are
read back from the shortest form that they are written in (`ipv6?_renderIpv6`). The double colon of
that form is the first one in it, because no group is written as nothing; what it leaves out is the
run of zeros that `longestZeros` points at.
-/

set_option autoImplicit false

namespace Tenancy.Net

open Text

/-- Eight groups of sixteen binary digits each. -/
structure GroupsOk (gs : List Nat) : Prop where
  length : gs.length = 8
  lt : ∀ g ∈ gs, g < 65536

/-! ## One group -/

theorem hexDigit?_lt {c : Char} {d : Nat} (h : hexDigit? c = some d) : d < 16 := by
  unfold hexDigit? at h
  split at h
  · next hdigit =>
    simp only [Char.isDigit, Bool.and_eq_true, decide_eq_true_eq, ge_iff_le,
      UInt32.le_iff_toNat_le] at hdigit
    have h9 : c.toNat ≤ 57 := hdigit.2
    cases h
    omega
  · split at h
    · next hlower =>
      simp only [Bool.and_eq_true, decide_eq_true_eq, Char.le_def, UInt32.le_iff_toNat_le] at hlower
      have hf : c.toNat ≤ 102 := hlower.2
      cases h
      omega
    · split at h
      · next hupper =>
        simp only [Bool.and_eq_true, decide_eq_true_eq, Char.le_def,
          UInt32.le_iff_toNat_le] at hupper
        have hf : c.toNat ≤ 70 := hupper.2
        cases h
        omega
      · cases h

theorem hexDigit?_digitChar {d : Nat} (h : d < 16) : hexDigit? d.digitChar = some d := by
  revert d
  decide

/-- The number that hexadecimal digits stand for, `acc` standing in front of them. -/
def readHex (acc : Nat) (cs : List Char) : Option Nat :=
  cs.foldlM (fun acc c => (hexDigit? c).map fun d => acc * 16 + d) acc

theorem group?_eq (cs : List Char) :
    group? cs = if cs ≠ [] ∧ cs.length ≤ 4 then readHex 0 cs else none := rfl

theorem readHex_lt {cs : List Char} {acc n : Nat} (h : readHex acc cs = some n) :
    n < (acc + 1) * Nat.pow 16 cs.length := by
  induction cs generalizing acc with
  | nil =>
    cases h
    show n < (n + 1) * 1
    omega
  | cons c cs ih =>
    simp only [readHex, List.foldlM_cons, Option.bind_eq_bind] at h
    obtain ⟨next, hnext, h⟩ := Option.bind_eq_some_iff.mp h
    obtain ⟨d, hd, rfl⟩ := Option.map_eq_some_iff.mp hnext
    have hd := hexDigit?_lt hd
    have ih := ih h
    calc n < (acc * 16 + d + 1) * Nat.pow 16 cs.length := ih
      _ ≤ ((acc + 1) * 16) * Nat.pow 16 cs.length := Nat.mul_le_mul_right _ (by omega)
      _ = (acc + 1) * (Nat.pow 16 cs.length * 16) := by rw [Nat.mul_assoc, Nat.mul_comm 16]
      _ = (acc + 1) * Nat.pow 16 (c :: cs).length := rfl

theorem group?_lt {cs : List Char} {g : Nat} (h : group? cs = some g) : g < 65536 := by
  rw [group?_eq] at h
  split at h
  · next hlength =>
    have hlt := readHex_lt h
    have hpow : Nat.pow 16 cs.length ≤ 65536 := Nat.pow_le_pow_right (by decide) hlength.2
    omega
  · cases h

theorem readHex_toDigits (g : Nat) : readHex 0 (Nat.toDigits 16 g) = some g := by
  induction g using Nat.strongRecOn with
  | ind g ih =>
    by_cases h : g < 16
    · rw [Nat.toDigits_of_lt_base h]
      simp [readHex, hexDigit?_digitChar h]
    · rw [Nat.toDigits_of_base_le (by decide) (by omega), readHex, List.foldlM_append, ← readHex,
        ih (g / 16) (by omega)]
      simp [hexDigit?_digitChar (Nat.mod_lt g (by decide : 16 > 0))]
      omega

theorem group?_toDigits {g : Nat} (h : g < 65536) : group? (Nat.toDigits 16 g) = some g := by
  have hlength : (Nat.toDigits 16 g).length ≤ 4 :=
    (Nat.length_toDigits_le_iff (by decide) (by decide)).mpr h
  rw [group?_eq, if_pos ⟨Nat.toDigits_ne_nil, hlength⟩, readHex_toDigits]

/-- The digits of groups as they are written. -/
def writtenDigits : List Char := "0123456789abcdef".toList

theorem mem_writtenDigits_of_mem_toDigits {g : Nat} {c : Char} (h : c ∈ Nat.toDigits 16 g) :
    c ∈ writtenDigits := by
  have hdigit : ∀ d < 16, d.digitChar ∈ writtenDigits := by decide
  induction g using Nat.strongRecOn with
  | ind g ih =>
    by_cases hlt : g < 16
    · rw [Nat.toDigits_of_lt_base hlt, List.mem_singleton] at h
      exact h ▸ hdigit g hlt
    · rw [Nat.toDigits_of_base_le (by decide) (by omega), List.mem_append,
        List.mem_singleton] at h
      rcases h with h | rfl
      · exact ih (g / 16) (by omega) h
      · exact hdigit _ (Nat.mod_lt g (by decide))

theorem colon_not_mem_toDigits (g : Nat) : ':' ∉ Nat.toDigits 16 g := fun h =>
  absurd (mem_writtenDigits_of_mem_toDigits h) (by decide)

/-! ## What is read -/

theorem octet?_lt {cs : List Char} {n : Nat} (h : octet? cs = some n) : n < 256 := by
  unfold octet? at h
  split at h
  · dsimp only at h
    split at h
    · cases h
      assumption
    · cases h
  · cases h

/-- What reads all of a list has read each of its items. -/
theorem map_eq_of_mapM {α β : Type} {f : α → Option β} {as : List α} {bs : List β}
    (h : as.mapM f = some bs) : as.map f = bs.map some := by
  induction as generalizing bs with
  | nil =>
    cases h
    rfl
  | cons a as ih =>
    simp only [List.mapM_cons, Option.bind_eq_bind, Option.pure_def] at h
    obtain ⟨b, hb, h⟩ := Option.bind_eq_some_iff.mp h
    obtain ⟨rest, hrest, h⟩ := Option.bind_eq_some_iff.mp h
    cases h
    rw [List.map_cons, List.map_cons, hb, ih hrest]

theorem of_mem_mapM {α β : Type} {f : α → Option β} {p : β → Prop}
    (hf : ∀ a b, f a = some b → p b) {as : List α} {bs : List β} (h : as.mapM f = some bs) :
    ∀ b ∈ bs, p b := by
  intro b hb
  have hmem : some b ∈ as.map f := map_eq_of_mapM h ▸ List.mem_map_of_mem hb
  obtain ⟨a, -, ha⟩ := List.mem_map.mp hmem
  exact hf a b ha

theorem exists_of_mem_mapM {α β : Type} {f : α → Option β} {as : List α} {bs : List β}
    (h : as.mapM f = some bs) : ∀ a ∈ as, ∃ b, f a = some b := by
  intro a ha
  have hmem : f a ∈ bs.map some := map_eq_of_mapM h ▸ List.mem_map_of_mem ha
  obtain ⟨b, -, hb⟩ := List.mem_map.mp hmem
  exact ⟨b, hb.symm⟩

theorem lastGroups?_lt {cs : List Char} {gs : List Nat} (h : lastGroups? cs = some gs) :
    ∀ g ∈ gs, g < 65536 := by
  unfold lastGroups? at h
  split at h
  · next g hg =>
    cases h
    simpa using group?_lt hg
  · split at h
    · next a b c d hv4 =>
      unfold ipv4? at hv4
      dsimp only at hv4
      split at hv4
      · have hlt := of_mem_mapM (fun _ _ => octet?_lt) hv4
        simp only [List.mem_cons, List.not_mem_nil, or_false, forall_eq_or_imp, forall_eq] at hlt
        cases h
        simp only [List.mem_cons, List.not_mem_nil, or_false, forall_eq_or_imp, forall_eq]
        omega
      · cases hv4
    · cases h

theorem of_groups?_cons {p : List Char} {ps : List (List Char)} {gs : List Nat} (hps : ps ≠ [])
    (h : groups? (p :: ps) = some gs) :
    ∃ g rest, group? p = some g ∧ groups? ps = some rest ∧ gs = g :: rest := by
  rw [groups?.eq_3 p ps hps] at h
  simp only [Option.bind_eq_bind, Option.pure_def] at h
  obtain ⟨g, hg, h⟩ := Option.bind_eq_some_iff.mp h
  obtain ⟨rest, hrest, h⟩ := Option.bind_eq_some_iff.mp h
  exact ⟨g, rest, hg, hrest, (Option.some.inj h).symm⟩

theorem groups?_lt {ps : List (List Char)} {gs : List Nat} (h : groups? ps = some gs) :
    ∀ g ∈ gs, g < 65536 := by
  induction ps using groups?.induct generalizing gs with
  | case1 =>
    cases h
    simp
  | case2 p => exact lastGroups?_lt h
  | case3 p ps hps ih =>
    obtain ⟨g, rest, hg, hrest, rfl⟩ := of_groups?_cons hps h
    exact List.forall_mem_cons.mpr ⟨group?_lt hg, ih hrest⟩

theorem stretch?_lt {cs : List Char} {gs : List Nat} (h : stretch? cs = some gs) :
    ∀ g ∈ gs, g < 65536 := by
  unfold stretch? at h
  split at h
  · cases h
    simp
  · exact groups?_lt h

/-- The groups in front of a double colon. -/
def frontGroups? (cs : List Char) : Option (List Nat) :=
  if cs = [] then some [] else (pieces ':' cs).mapM group?

theorem frontGroups?_lt {cs : List Char} {gs : List Nat} (h : frontGroups? cs = some gs) :
    ∀ g ∈ gs, g < 65536 := by
  unfold frontGroups? at h
  split at h
  · cases h
    simp
  · exact of_mem_mapM (fun _ _ => group?_lt) h

theorem ipv6?_of_cut {cs before after : List Char}
    (h : cutDoubleColon cs = some (before, after)) :
    ipv6? cs = (frontGroups? before).bind fun front => (stretch? after).bind fun back =>
      if front.length + back.length ≤ 7 then
        some (front ++ List.replicate (8 - front.length - back.length) 0 ++ back)
      else none := by
  unfold ipv6? frontGroups?
  rw [h]
  by_cases hnil : before = [] <;> simp [hnil]

/-- An IPv6 address is eight groups in one stretch, or two stretches around a double colon. -/
theorem of_ipv6? {cs : List Char} {gs : List Nat} (h : ipv6? cs = some gs) :
    (cutDoubleColon cs = none ∧ stretch? cs = some gs ∧ gs.length = 8) ∨
    ∃ before after front back, cutDoubleColon cs = some (before, after) ∧
      frontGroups? before = some front ∧ stretch? after = some back ∧
      front.length + back.length ≤ 7 ∧
      gs = front ++ List.replicate (8 - front.length - back.length) 0 ++ back := by
  cases hcut : cutDoubleColon cs with
  | none =>
    simp only [ipv6?, hcut, Option.bind_eq_bind] at h
    obtain ⟨read, hread, h⟩ := Option.bind_eq_some_iff.mp h
    split at h
    · next hlength =>
      cases h
      exact .inl ⟨rfl, hread, hlength⟩
    · cases h
  | some cut =>
    rw [ipv6?_of_cut hcut] at h
    obtain ⟨front, hfront, h⟩ := Option.bind_eq_some_iff.mp h
    obtain ⟨back, hback, h⟩ := Option.bind_eq_some_iff.mp h
    split at h
    · next hlength =>
      cases h
      exact .inr ⟨cut.1, cut.2, front, back, rfl, hfront, hback, hlength, rfl⟩
    · cases h

/-- **What is read as an address is eight groups.** -/
theorem groupsOk_of_ipv6? {cs : List Char} {gs : List Nat} (h : ipv6? cs = some gs) :
    GroupsOk gs := by
  rcases of_ipv6? h with ⟨-, hread, hlength⟩ | ⟨_, _, front, back, -, hfront, hback, hlength, rfl⟩
  · exact ⟨hlength, stretch?_lt hread⟩
  · refine ⟨by simp; omega, fun g hg => ?_⟩
    simp only [List.mem_append, List.mem_replicate] at hg
    rcases hg with (hg | ⟨-, rfl⟩) | hg
    · exact frontGroups?_lt hfront g hg
    · decide
    · exact stretch?_lt hback g hg

/-! ## Groups between colons -/

/-- The groups as they are written, one by one. -/
def writtenGroups (gs : List Nat) : List (List Char) := gs.map fun g => Nat.toDigits 16 g

theorem pieces_hexGroups {gs : List Nat} (h : gs ≠ []) :
    pieces ':' (hexGroups gs) = writtenGroups gs := by
  refine pieces_intercalate (by simpa using h) fun p hp => ?_
  obtain ⟨g, -, rfl⟩ := List.mem_map.mp hp
  exact colon_not_mem_toDigits g

theorem hexGroups_cons_cons (g k : Nat) (gs : List Nat) :
    hexGroups (g :: k :: gs) = Nat.toDigits 16 g ++ ':' :: hexGroups (k :: gs) := by
  simp [hexGroups, List.intercalate_cons_cons]

theorem hexGroups_singleton (g : Nat) : hexGroups [g] = Nat.toDigits 16 g := by
  simp [hexGroups]

theorem hexGroups_eq_nil_iff {gs : List Nat} : hexGroups gs = [] ↔ gs = [] := by
  match gs with
  | [] => simp [hexGroups]
  | [g] => simp [hexGroups_singleton, Nat.toDigits_ne_nil]
  | g :: k :: gs => simp [hexGroups_cons_cons]

theorem head?_hexGroups_ne (gs : List Nat) : (hexGroups gs).head? ≠ some ':' := by
  have hdigits : ∀ g, (Nat.toDigits 16 g).head? ≠ some ':' := fun g h =>
    colon_not_mem_toDigits g (List.mem_of_head? h)
  match gs with
  | [] => simp [hexGroups]
  | [g] => exact hexGroups_singleton g ▸ hdigits g
  | g :: k :: gs =>
    rw [hexGroups_cons_cons, List.head?_append, Option.or_of_isSome (by simp [Nat.toDigits_ne_nil])]
    exact hdigits g

theorem mem_hexGroups {gs : List Nat} {c : Char} (h : c ∈ hexGroups gs) :
    c ∈ ':' :: writtenDigits := by
  rcases mem_intercalate.mp h with ⟨p, hp, hc⟩ | ⟨rfl, -⟩
  · obtain ⟨g, -, rfl⟩ := List.mem_map.mp hp
    exact List.mem_cons_of_mem _ (mem_writtenDigits_of_mem_toDigits hc)
  · exact List.mem_cons_self

theorem mapM_group?_writtenGroups {gs : List Nat} (h : ∀ g ∈ gs, g < 65536) :
    (writtenGroups gs).mapM group? = some gs := by
  induction gs with
  | nil => rfl
  | cons g gs ih =>
    have ih := ih fun k hk => h k (List.mem_cons_of_mem _ hk)
    simp only [writtenGroups] at ih
    simp [writtenGroups, group?_toDigits (h g List.mem_cons_self), ih]

theorem groups?_writtenGroups {gs : List Nat} (h : ∀ g ∈ gs, g < 65536) :
    groups? (writtenGroups gs) = some gs := by
  induction gs with
  | nil => rfl
  | cons g gs ih =>
    have hg := group?_toDigits (h g List.mem_cons_self)
    have ih := ih fun k hk => h k (List.mem_cons_of_mem _ hk)
    cases gs with
    | nil => simp [writtenGroups, groups?, lastGroups?, hg]
    | cons k gs =>
      simp only [writtenGroups, List.map_cons] at ih
      simp [writtenGroups, groups?, hg, ih]

theorem stretch?_hexGroups {gs : List Nat} (h : ∀ g ∈ gs, g < 65536) :
    stretch? (hexGroups gs) = some gs := by
  unfold stretch?
  by_cases hgs : gs = []
  · rw [if_pos (hexGroups_eq_nil_iff.mpr hgs), hgs]
  · rw [if_neg (mt hexGroups_eq_nil_iff.mp hgs), pieces_hexGroups hgs, groups?_writtenGroups h]

theorem frontGroups?_hexGroups {gs : List Nat} (h : ∀ g ∈ gs, g < 65536) :
    frontGroups? (hexGroups gs) = some gs := by
  unfold frontGroups?
  by_cases hgs : gs = []
  · rw [if_pos (hexGroups_eq_nil_iff.mpr hgs), hgs]
  · rw [if_neg (mt hexGroups_eq_nil_iff.mp hgs), pieces_hexGroups hgs, mapM_group?_writtenGroups h]

/-! ## The double colon -/

theorem cutDoubleColon_append {p : List Char} (hp : ':' ∉ p) (cs : List Char) :
    cutDoubleColon (p ++ cs) = (cutDoubleColon cs).map fun (a, b) => (p ++ a, b) := by
  induction p with
  | nil => simp
  | cons c p ih =>
    have hc : ¬c = ':' := fun e => hp (e ▸ List.mem_cons_self)
    have ih := ih fun h => hp (List.mem_cons_of_mem _ h)
    rw [List.cons_append, cutDoubleColon, if_neg fun h => hc h.1, ih, Option.map_map]
    rfl

theorem cutDoubleColon_cons {cs : List Char} (h : cs.head? ≠ some ':') :
    cutDoubleColon (':' :: cs) = (cutDoubleColon cs).map fun (a, b) => (':' :: a, b) := by
  rw [cutDoubleColon, if_neg fun hc => h hc.2]

/-- Behind groups that are all written as something, a double colon is the first one there is. -/
theorem cutDoubleColon_hexGroups_append (gs : List Nat) (cs : List Char)
    (hcs : cs = [] ∨ cs.head? = some ':') :
    cutDoubleColon (hexGroups gs ++ cs) =
      (cutDoubleColon cs).map fun (a, b) => (hexGroups gs ++ a, b) := by
  match gs with
  | [] =>
    simp only [hexGroups, List.map_nil, List.intercalate_nil, List.nil_append]
    cases cutDoubleColon cs <;> rfl
  | [g] =>
    rw [hexGroups_singleton]
    exact cutDoubleColon_append (colon_not_mem_toDigits g) cs
  | g :: k :: gs =>
    have ih := cutDoubleColon_hexGroups_append (k :: gs) cs hcs
    -- the colon between two groups is single, since the next group is written as something
    have hne : hexGroups (k :: gs) ≠ [] := mt hexGroups_eq_nil_iff.mp (List.cons_ne_nil _ _)
    have hhead : (hexGroups (k :: gs) ++ cs).head? ≠ some ':' := by
      rw [List.head?_append, Option.or_of_isSome (by simpa using hne)]
      exact head?_hexGroups_ne _
    rw [hexGroups_cons_cons, List.append_assoc, List.cons_append,
      cutDoubleColon_append (colon_not_mem_toDigits g), cutDoubleColon_cons hhead, ih,
      Option.map_map, Option.map_map]
    cases cutDoubleColon cs <;> simp

theorem cutDoubleColon_hexGroups (gs : List Nat) : cutDoubleColon (hexGroups gs) = none := by
  have h := cutDoubleColon_hexGroups_append gs [] (.inl rfl)
  rw [List.append_nil] at h
  exact h

theorem zeroRun_spec (gs : List Nat) :
    gs = List.replicate (zeroRun gs) 0 ++ gs.drop (zeroRun gs) := by
  induction gs with
  | nil => rfl
  | cons g gs ih =>
    by_cases hg : g = 0
    · have hrun : zeroRun (g :: gs) = zeroRun gs + 1 := by simp [zeroRun, hg]
      rw [hrun, List.drop_succ_cons, List.replicate_succ, List.cons_append, ← ih, hg]
    · have hrun : zeroRun (g :: gs) = 0 := by simp [zeroRun, hg]
      rw [hrun]
      rfl

/-- The run that `longestZeros` points at is one of zeros. -/
theorem longestZeros_spec (pos : Nat) (gs : List Nat) :
    ∃ k n, longestZeros pos gs = (pos + k, n) ∧
      gs = gs.take k ++ List.replicate n 0 ++ gs.drop (k + n) := by
  induction gs generalizing pos with
  | nil => exact ⟨0, 0, rfl, rfl⟩
  | cons g gs ih =>
    obtain ⟨k, n, hrest, hgs⟩ := ih (pos + 1)
    unfold longestZeros
    dsimp only
    split
    -- the run that begins here, or the longest one behind it
    · refine ⟨0, zeroRun (g :: gs), rfl, ?_⟩
      rw [Nat.zero_add, List.take_zero, List.nil_append]
      exact zeroRun_spec (g :: gs)
    · refine ⟨k + 1, n, by rw [hrest, Nat.add_assoc, Nat.add_comm 1 k], ?_⟩
      rw [Nat.add_right_comm, List.take_succ_cons, List.drop_succ_cons, List.cons_append,
        List.cons_append, ← hgs]

/-! ## The address -/

theorem mem_renderIpv6 {gs : List Nat} {c : Char} (h : c ∈ renderIpv6 gs) :
    c ∈ ':' :: writtenDigits := by
  unfold renderIpv6 at h
  dsimp only at h
  split at h
  · exact mem_hexGroups h
  · rw [List.mem_append, List.mem_append] at h
    rcases h with (h | h) | h
    · exact mem_hexGroups h
    · exact List.mem_cons.mpr (.inl (by simpa using h))
    · exact mem_hexGroups h

/-- The characters of an address in brackets. -/
def bracketedChars : List Char := '[' :: ']' :: ':' :: writtenDigits

theorem mem_bracketedChars {gs : List Nat} {c : Char} (h : c ∈ '[' :: renderIpv6 gs ++ [']']) :
    c ∈ bracketedChars := by
  rw [List.mem_append, List.mem_cons, List.mem_singleton] at h
  rcases h with (rfl | h) | rfl
  · exact List.mem_cons_self
  · exact List.mem_cons_of_mem _ (List.mem_cons_of_mem _ (mem_renderIpv6 h))
  · exact List.mem_cons_of_mem _ List.mem_cons_self

/-- **A written address is read back.** -/
theorem ipv6?_renderIpv6 {gs : List Nat} (h : GroupsOk gs) : ipv6? (renderIpv6 gs) = some gs := by
  obtain ⟨start, count, hzeros, hgs⟩ := longestZeros_spec 0 gs
  rw [Nat.zero_add] at hzeros
  simp only [renderIpv6, hzeros]
  split
  · simp [ipv6?, cutDoubleColon_hexGroups, stretch?_hexGroups h.lt, h.length]
  · next hcount =>
    have hlength := congrArg List.length hgs
    simp only [List.length_append, List.length_replicate, List.length_take, List.length_drop,
      h.length] at hlength
    have hcut : cutDoubleColon (hexGroups (gs.take start) ++ [':', ':'] ++
        hexGroups (gs.drop (start + count))) =
        some (hexGroups (gs.take start), hexGroups (gs.drop (start + count))) := by
      rw [List.append_assoc, cutDoubleColon_hexGroups_append _ _ (.inr rfl)]
      simp [cutDoubleColon]
    have hfront : frontGroups? (hexGroups (gs.take start)) = some (gs.take start) :=
      frontGroups?_hexGroups fun g hg => h.lt g (List.mem_of_mem_take hg)
    have hback : stretch? (hexGroups (gs.drop (start + count))) = some (gs.drop (start + count)) :=
      stretch?_hexGroups fun g hg => h.lt g (List.mem_of_mem_drop hg)
    -- as many zeros are filled in as were left out
    have hleft : 8 - (gs.take start).length - (gs.drop (start + count)).length = count := by
      simp only [List.length_take, List.length_drop, h.length]
      omega
    have hfits : (gs.take start).length + (gs.drop (start + count)).length ≤ 7 := by
      simp only [List.length_take, List.length_drop, h.length]
      omega
    rw [ipv6?_of_cut hcut, hfront, hback, Option.bind_some, Option.bind_some, if_pos hfits, hleft,
      ← hgs]

end Tenancy.Net
