import Tenancy.Proofs.Text.Utf8
import Tenancy.Text.Percent

/-!
# Writing and reading triples

A component holds octets that stand for themselves and triples, nothing else, and so it can be
written again without a change (`encode_of_kept`) wherever percent signs and digits stand for
themselves. Where a percent sign does not, what is written is read back (`decode_encode`).

A percent sign is no hexadecimal digit, so octets in front of a triple are read as they are read
alone, whatever they end in: that is why a value can be added behind another one
(`decodeFrom_append_percent`).
-/

set_option autoImplicit false

namespace Tenancy.Text

/-! ## Text whose characters are octets -/

theorem utf8EncodeChar_ascii {c : Char} (h : c.toNat < 0x80) :
    String.utf8EncodeChar c = [UInt8.ofNat c.toNat] := by
  have hval : c.val.toNat ≤ 0x7F := Nat.le_of_lt_succ h
  unfold String.utf8EncodeChar
  exact if_pos hval

/-- What holds of all ASCII characters may be decided. -/
@[elab_as_elim]
theorem of_forall_ascii {p : Char → Prop} (c : Char) (hc : c.toNat < 0x80)
    (h : ∀ n < 0x80, p (Char.ofNat n)) : p c := by
  have hp := h c.toNat hc
  rwa [Char.ofNat_toNat] at hp

/-- What holds of all characters of a list may be decided by going through the list. -/
theorem forall_mem_of_all {p : Char → Prop} [DecidablePred p] {cs : List Char}
    (h : cs.all (fun c => decide (p c)) = true) : ∀ c ∈ cs, p c := fun c hc =>
  of_decide_eq_true (List.all_eq_true.mp h c hc)

theorem octets_cons (c : Char) (cs : List Char) :
    octets (c :: cs) = String.utf8EncodeChar c ++ octets cs := rfl

theorem octets_cons_ascii {c : Char} (h : c.toNat < 0x80) (cs : List Char) :
    octets (c :: cs) = UInt8.ofNat c.toNat :: octets cs := by
  rw [octets_cons, utf8EncodeChar_ascii h]
  rfl

theorem octets_ascii {cs : List Char} (h : ∀ c ∈ cs, c.toNat < 0x80) :
    octets cs = cs.map fun c => UInt8.ofNat c.toNat := by
  induction cs with
  | nil => rfl
  | cons c cs ih =>
    rw [octets_cons_ascii (h c List.mem_cons_self), ih fun d hd => h d (List.mem_cons_of_mem _ hd),
      List.map_cons]

/-- A character beyond ASCII has no ASCII octet. -/
theorem le_toNat_of_mem_utf8EncodeChar {c : Char} (h : 0x80 ≤ c.toNat) {b : UInt8}
    (hb : b ∈ String.utf8EncodeChar c) : 0x80 ≤ b.toNat := by
  have hval : 0x80 ≤ c.val.toNat := h
  unfold String.utf8EncodeChar at hb
  dsimp only at hb
  rw [if_neg (by omega)] at hb
  repeat' split at hb
  all_goals
    simp only [List.mem_cons, List.not_mem_nil, or_false] at hb
    rcases hb with rfl | rfl | rfl | rfl <;> (rw [Utf8.toNat_ofNat (by omega)]; omega)

theorem ofNat_toNat_ofNat {c : Char} (h : c.toNat < 0x80) :
    Char.ofNat (UInt8.ofNat c.toNat).toNat = c := by
  rw [Utf8.toNat_ofNat (by omega), Char.ofNat_toNat]

theorem toNat_ofNat_octet {b : UInt8} : (Char.ofNat b.toNat).toNat = b.toNat := by
  have hb : b.toNat < 256 := UInt8.toNat_lt b
  have hvalid : b.toNat.isValidChar := .inl (by omega)
  rw [Char.ofNat, dif_pos hvalid]
  rfl

namespace Percent

/-! ## What stands for itself -/

/-- A character that stands for itself, given the octets that do. -/
def Kept (keep : UInt8 → Bool) (c : Char) : Prop :=
  c.toNat < 0x80 ∧ keep (UInt8.ofNat c.toNat) = true

instance (keep : UInt8 → Bool) (c : Char) : Decidable (Kept keep c) :=
  inferInstanceAs (Decidable (_ ∧ _))

/-- What a triple is written with. -/
def tripleChars : List Char := "%0123456789ABCDEF".toList

/-- Octets that stand for themselves are ASCII, and those of triples are among them. -/
structure Stable (keep : UInt8 → Bool) : Prop where
  ascii : ∀ b, keep b = true → b.toNat < 0x80
  triples : ∀ c ∈ tripleChars, keep (UInt8.ofNat c.toNat) = true

theorem digitChar_mem {n : Nat} (h : n < 16) : digitChar n ∈ tripleChars := by
  revert n
  decide

theorem toNat_lt_of_mem_tripleChars {c : Char} (h : c ∈ tripleChars) : c.toNat < 0x80 := by
  have hall : ∀ c ∈ tripleChars, c.toNat < 0x80 := forall_mem_of_all (by decide)
  exact hall c h

theorem mem_tripleChars_of_mem_triple {b : UInt8} {c : Char} (h : c ∈ triple b) :
    c ∈ tripleChars := by
  have hb : b.toNat < 256 := UInt8.toNat_lt b
  simp only [triple, List.mem_cons, List.not_mem_nil, or_false] at h
  rcases h with rfl | rfl | rfl
  · decide
  · exact digitChar_mem (by omega)
  · exact digitChar_mem (by omega)

/-- Writing puts down characters that stand for themselves. The octets of the second set may be more
than those that were written as they are. -/
theorem kept_of_mem_encodeOctets {keep keep' : UInt8 → Bool} (hk : Stable keep')
    (hsub : ∀ b, keep b = true → keep' b = true) {bs : List UInt8} {c : Char}
    (h : c ∈ encodeOctets keep bs) : Kept keep' c := by
  obtain ⟨b, -, hc⟩ := List.mem_flatMap.mp h
  split at hc
  · next hb =>
    rw [List.mem_singleton.mp hc]
    have hlt := hk.ascii b (hsub b hb)
    rw [Kept, toNat_ofNat_octet, UInt8.ofNat_toNat]
    exact ⟨hlt, hsub b hb⟩
  · have hmem := mem_tripleChars_of_mem_triple hc
    exact ⟨toNat_lt_of_mem_tripleChars hmem, hk.triples c hmem⟩

theorem kept_of_mem_encode {keep : UInt8 → Bool} (hk : Stable keep) {cs : List Char} {c : Char}
    (h : c ∈ encode keep cs) : Kept keep c :=
  kept_of_mem_encodeOctets hk (fun _ hb => hb) h

/-- What is written was there, unless it belongs to a triple. -/
theorem mem_tripleChars_or_mem_of_mem_encode {keep : UInt8 → Bool}
    (hascii : ∀ b, keep b = true → b.toNat < 0x80) {cs : List Char} {c : Char}
    (h : c ∈ encode keep cs) : c ∈ tripleChars ∨ c ∈ cs := by
  obtain ⟨b, hb, hc⟩ := List.mem_flatMap.mp h
  split at hc
  · next hkeep =>
    obtain ⟨d, hd, hbd⟩ := List.mem_flatMap.mp hb
    -- an octet that stands for itself is ASCII, and comes from a character that is
    have hlt : d.toNat < 0x80 := Nat.lt_of_not_le fun hge =>
      absurd (hascii b hkeep) (Nat.not_lt_of_le (le_toNat_of_mem_utf8EncodeChar hge hbd))
    rw [utf8EncodeChar_ascii hlt, List.mem_singleton] at hbd
    rw [List.mem_singleton.mp hc, hbd, ofNat_toNat_ofNat hlt]
    exact .inr hd
  · exact .inl (mem_tripleChars_of_mem_triple hc)

theorem encode_ne_nil (keep : UInt8 → Bool) {cs : List Char} (h : cs ≠ []) :
    encode keep cs ≠ [] := by
  obtain ⟨c, cs, rfl⟩ := List.exists_cons_of_ne_nil h
  have hc : String.utf8EncodeChar c ≠ [] := String.utf8EncodeChar_ne_nil
  obtain ⟨b, bs, hbs⟩ := List.exists_cons_of_ne_nil hc
  rw [encode, octets_cons, hbs, List.cons_append, encodeOctets, List.flatMap_cons]
  split <;> simp [triple]

theorem encode_append (keep : UInt8 → Bool) (a b : List Char) :
    encode keep (a ++ b) = encode keep a ++ encode keep b := by
  simp [encode, encodeOctets, octets_append]

/-- A text that begins with a character outside triples began with it before it was written. -/
theorem head?_encode_ne {keep : UInt8 → Bool} (hascii : ∀ b, keep b = true → b.toNat < 0x80)
    {cs : List Char} {d : Char} (hd : d ∉ tripleChars) (h : cs.head? ≠ some d) :
    (encode keep cs).head? ≠ some d := by
  cases cs with
  | nil => simp [encode, encodeOctets, octets]
  | cons c cs =>
    have hne : encode keep [c] ≠ [] := encode_ne_nil keep (List.cons_ne_nil c [])
    rw [← List.singleton_append, encode_append, List.head?_append,
      Option.or_of_isSome (by simpa using hne)]
    intro hhead
    rcases mem_tripleChars_or_mem_of_mem_encode hascii (List.mem_of_head? hhead) with hmem | hmem
    · exact hd hmem
    · exact h (congrArg some (List.mem_singleton.mp hmem).symm)

/-- **Text that stands for itself is written as it is.** -/
theorem encode_of_kept {keep : UInt8 → Bool} {cs : List Char} (h : ∀ c ∈ cs, Kept keep c) :
    encode keep cs = cs := by
  induction cs with
  | nil => rfl
  | cons c cs ih =>
    obtain ⟨hascii, hkeep⟩ := h c List.mem_cons_self
    have ih := ih fun d hd => h d (List.mem_cons_of_mem _ hd)
    unfold encode at ih ⊢
    rw [octets_cons_ascii hascii, encodeOctets, List.flatMap_cons, if_pos hkeep,
      ofNat_toNat_ofNat hascii, ← encodeOctets, ih]
    rfl

/-! ## Reading triples -/

theorem tripleValue?_of_ne {a : UInt8} (h : a ≠ 0x25) (bs : List UInt8) :
    tripleValue? a bs = none := by
  unfold tripleValue?
  split
  · rw [if_neg h]
  · rfl

theorem decodeFrom_cons_of_ne {a : UInt8} (h : a ≠ 0x25) (bs : List UInt8) :
    decodeFrom 0 (a :: bs) = a :: decodeFrom 0 bs := by
  rw [decodeFrom, tripleValue?_of_ne h]

theorem digit?_digitChar {n : Nat} (h : n < 16) :
    digit? (UInt8.ofNat (digitChar n).toNat) = some (UInt8.ofNat n) := by
  revert n
  decide

theorem octets_triple (b : UInt8) :
    octets (triple b) = [0x25, UInt8.ofNat (digitChar (b.toNat / 16)).toNat,
      UInt8.ofNat (digitChar (b.toNat % 16)).toNat] := by
  rw [octets_ascii fun c hc => toNat_lt_of_mem_tripleChars (mem_tripleChars_of_mem_triple hc)]
  rfl

theorem decodeFrom_triple (b : UInt8) (bs : List UInt8) :
    decodeFrom 0 (octets (triple b) ++ bs) = b :: decodeFrom 0 bs := by
  have hb : b.toNat < 256 := UInt8.toNat_lt b
  have hvalue : UInt8.ofNat (b.toNat / 16) * 16 + UInt8.ofNat (b.toNat % 16) = b := by
    apply UInt8.toNat_inj.mp
    simp
    omega
  rw [octets_triple]
  simp [decodeFrom, tripleValue?, digit?_digitChar (show b.toNat / 16 < 16 by omega),
    digit?_digitChar (show b.toNat % 16 < 16 by omega), hvalue]

/-- A triple's value depends on nothing behind a percent sign. -/
theorem tripleValue?_append_percent (a : UInt8) (as bs : List UInt8) :
    tripleValue? a (as ++ 0x25 :: bs) = tripleValue? a as := by
  have hpercent : digit? 0x25 = none := by decide
  match as with
  | [] =>
    cases bs with
    | nil => rfl
    | cons b bs => simp [tripleValue?, hpercent]
  | [h] =>
    simp only [List.cons_append, List.nil_append, tripleValue?, hpercent]
    split <;> try rfl
    split <;> simp_all
  | h :: l :: rest => rfl

theorem length_le_of_tripleValue? {a b : UInt8} {as : List UInt8}
    (h : tripleValue? a as = some b) : 2 ≤ as.length := by
  match as with
  | [] => simp [tripleValue?] at h
  | [_] => simp [tripleValue?] at h
  | _ :: _ :: _ => simp

/-- Octets in front of a percent sign are read as if nothing followed. The induction is over those
octets, with the number of octets to skip, which never reach as far as the percent sign. -/
theorem decodeFrom_append_percent (skip : Nat) (as bs : List UInt8) (h : skip ≤ as.length) :
    decodeFrom skip (as ++ 0x25 :: bs) = decodeFrom skip as ++ decodeFrom 0 (0x25 :: bs) := by
  induction as generalizing skip with
  | nil =>
    obtain rfl : skip = 0 := Nat.le_zero.mp h
    rfl
  | cons a as ih =>
    cases skip with
    | succ skip => exact ih skip (Nat.le_of_succ_le_succ h)
    | zero =>
      rw [List.cons_append, decodeFrom, decodeFrom, tripleValue?_append_percent]
      cases hvalue : tripleValue? a as with
      | none => simp only [ih 0 (Nat.zero_le _), List.cons_append]
      | some b => simp only [ih 2 (length_le_of_tripleValue? hvalue), List.cons_append]

/-- What was written is read back, if a percent sign does not stand for itself. -/
theorem decodeOctets_encodeOctets {keep : UInt8 → Bool} (hascii : ∀ b, keep b = true → b.toNat < 0x80)
    (hpercent : keep 0x25 = false) (bs : List UInt8) :
    decodeOctets (octets (encodeOctets keep bs)) = bs := by
  unfold decodeOctets
  induction bs with
  | nil => rfl
  | cons b bs ih =>
    rw [encodeOctets, List.flatMap_cons, ← encodeOctets, octets_append]
    split
    · next hb =>
      have hlt : (Char.ofNat b.toNat).toNat < 0x80 := by
        rw [toNat_ofNat_octet]
        exact hascii b hb
      have hne : b ≠ 0x25 := fun e => absurd (e ▸ hb) (by simp [hpercent])
      rw [octets_cons_ascii hlt, toNat_ofNat_octet, UInt8.ofNat_toNat]
      exact (decodeFrom_cons_of_ne hne _).trans (congrArg _ ih)
    · rw [decodeFrom_triple, ih]

theorem decode_encode {keep : UInt8 → Bool} (hascii : ∀ b, keep b = true → b.toNat < 0x80)
    (hpercent : keep 0x25 = false) (cs : List Char) : decode (encode keep cs) = octets cs :=
  decodeOctets_encodeOctets hascii hpercent (octets cs)

end Percent

end Tenancy.Text
