import Tenancy.Text.Utf8

/-!
# Reading octets back as text

What is written as UTF-8 is read back as it was, by the strict reading and by the one that replaces
what is ill-formed (`decodeLossy_octets`). The second reading need not be given well-formed octets,
and so it matters where a text may be cut: an octet below 0x80 ends whatever stands before it,
complete or not, so texts that are joined by such an octet are read one by one
(`decodeLossy_append_cons`).
-/

set_option autoImplicit false

namespace Tenancy.Text

namespace Utf8

/-! ## One octet -/

theorem step_last {low high acc seen b : Nat} (hlow : low ≤ b) (hhigh : b ≤ high) :
    step (.owing 1 low high acc seen) b =
      ([.char (Char.ofNat (acc * 64 + (b - 0x80))) (seen + 1)], .start) := by
  simp [step, hlow, hhigh]

theorem step_more {owed low high acc seen b : Nat} (howed : 1 < owed) (hlow : low ≤ b)
    (hhigh : b ≤ high) :
    step (.owing owed low high acc seen) b =
      ([], .owing (owed - 1) 0x80 0xBF (acc * 64 + (b - 0x80)) (seen + 1)) := by
  have h : ¬owed ≤ 1 := by omega
  simp [step, hlow, hhigh, h]

theorem lead_ascii {b : Nat} (h : b < 0x80) :
    lead b = ([.char (Char.ofNat b) 1], .start) := by
  simp [lead, h]

theorem lead_two {b : Nat} (hlow : 0xC2 ≤ b) (hhigh : b ≤ 0xDF) :
    lead b = ([], .owing 1 0x80 0xBF (b - 0xC0) 1) := by
  have h : ¬b < 0x80 := by omega
  simp [lead, h, hlow, hhigh]

/-- The first octet of three says what the second one may be: nothing that would have fitted into
two octets, and no surrogate. -/
theorem exists_lead_three {v : Nat} (hlow : 0x800 ≤ v) (hhigh : v ≤ 0xFFFF)
    (hsurrogate : v < 0xD800 ∨ 0xDFFF < v) :
    ∃ low high, lead (v / 4096 + 224) = ([], .owing 2 low high (v / 4096) 1) ∧
      low ≤ v / 64 % 64 + 128 ∧ v / 64 % 64 + 128 ≤ high := by
  unfold lead
  rw [if_neg (by omega), if_neg (by simp)]
  by_cases h0 : v / 4096 = 0
  · exact ⟨0xA0, 0xBF, by simp [h0], by omega, by omega⟩
  · by_cases hd : v / 4096 = 0xD
    · exact ⟨0x80, 0x9F, by simp [hd], by omega, by omega⟩
    · refine ⟨0x80, 0xBF, ?_, by omega, by omega⟩
      rw [if_neg (by simp; omega), if_neg (by simp; omega), if_pos (by simp; omega)]
      simp

/-- The first octet of four says what the second one may be: nothing that would have fitted into
three octets, and nothing beyond the last code point. -/
theorem exists_lead_four {v : Nat} (hlow : 0x10000 ≤ v) (hhigh : v < 0x110000) :
    ∃ low high, lead (v / 262144 + 240) = ([], .owing 3 low high (v / 262144) 1) ∧
      low ≤ v / 4096 % 64 + 128 ∧ v / 4096 % 64 + 128 ≤ high := by
  unfold lead
  rw [if_neg (by omega), if_neg (by simp), if_neg (by simp), if_neg (by simp), if_neg (by simp)]
  by_cases h0 : v / 262144 = 0
  · exact ⟨0x90, 0xBF, by simp [h0], by omega, by omega⟩
  · by_cases h4 : v / 262144 = 4
    · exact ⟨0x80, 0x8F, by simp [h4], by omega, by omega⟩
    · refine ⟨0x80, 0xBF, ?_, by omega, by omega⟩
      rw [if_neg (by simp; omega), if_neg (by simp; omega), if_pos (by simp; omega)]
      simp

/-! ## One character -/

theorem run_cons (s : State) (b : UInt8) (bs : List UInt8) :
    run s (b :: bs) = (step s b.toNat).1 ++ run (step s b.toNat).2 bs := by
  cases s <;> rfl

theorem step_start (b : Nat) : step .start b = lead b := rfl

theorem toNat_ofNat {n : Nat} (h : n < 256) : (UInt8.ofNat n).toNat = n := by
  simp
  omega

section Widths

variable {v : Nat} (bs : List UInt8)

theorem run_one (h : v < 0x80) :
    run .start (UInt8.ofNat v :: bs) = .char (Char.ofNat v) 1 :: run .start bs := by
  rw [run_cons, toNat_ofNat (by omega), step_start, lead_ascii h]
  rfl

theorem run_two (hlow : 0x80 ≤ v) (hhigh : v ≤ 0x7FF) :
    run .start (UInt8.ofNat (v / 64 % 32 + 192) :: UInt8.ofNat (v % 64 + 128) :: bs) =
      .char (Char.ofNat v) 2 :: run .start bs := by
  have hv : (v / 64 % 32 + 192 - 192) * 64 + (v % 64 + 128 - 128) = v := by omega
  rw [run_cons, toNat_ofNat (by omega), step_start, lead_two (by omega) (by omega), run_cons,
    toNat_ofNat (by omega), step_last (by omega) (by omega), hv]
  rfl

theorem run_three (hlow : 0x800 ≤ v) (hhigh : v ≤ 0xFFFF)
    (hsurrogate : v < 0xD800 ∨ 0xDFFF < v) :
    run .start (UInt8.ofNat (v / 4096 % 16 + 224) :: UInt8.ofNat (v / 64 % 64 + 128) ::
        UInt8.ofNat (v % 64 + 128) :: bs) =
      .char (Char.ofNat v) 3 :: run .start bs := by
  obtain ⟨low, high, hlead, h1, h2⟩ := exists_lead_three hlow hhigh hsurrogate
  have hfirst : v / 4096 % 16 + 224 = v / 4096 + 224 := by omega
  have hv : (v / 4096 * 64 + (v / 64 % 64 + 128 - 128)) * 64 + (v % 64 + 128 - 128) = v := by omega
  rw [run_cons, toNat_ofNat (by omega), step_start, hfirst, hlead, run_cons,
    toNat_ofNat (by omega), step_more (by omega) h1 h2, run_cons, toNat_ofNat (by omega),
    step_last (by omega) (by omega), hv]
  rfl

theorem run_four (hlow : 0x10000 ≤ v) (hhigh : v < 0x110000) :
    run .start (UInt8.ofNat (v / 262144 % 8 + 240) :: UInt8.ofNat (v / 4096 % 64 + 128) ::
        UInt8.ofNat (v / 64 % 64 + 128) :: UInt8.ofNat (v % 64 + 128) :: bs) =
      .char (Char.ofNat v) 4 :: run .start bs := by
  obtain ⟨low, high, hlead, h1, h2⟩ := exists_lead_four hlow hhigh
  have hfirst : v / 262144 % 8 + 240 = v / 262144 + 240 := by omega
  have hv : ((v / 262144 * 64 + (v / 4096 % 64 + 128 - 128)) * 64 + (v / 64 % 64 + 128 - 128)) * 64 +
      (v % 64 + 128 - 128) = v := by omega
  rw [run_cons, toNat_ofNat (by omega), step_start, hfirst, hlead, run_cons,
    toNat_ofNat (by omega), step_more (by omega) h1 h2, run_cons, toNat_ofNat (by omega),
    step_more (by omega) (by omega) (by omega), run_cons, toNat_ofNat (by omega),
    step_last (by omega) (by omega), hv]
  rfl

end Widths

/-- The octets of a character are read as that character, whatever stands behind them. The cases are
those of writing, by the number of octets. -/
theorem run_utf8EncodeChar (c : Char) (bs : List UInt8) :
    run .start (String.utf8EncodeChar c ++ bs) =
      .char c (String.utf8EncodeChar c).length :: run .start bs := by
  have hvalid : c.val.toNat < 0xD800 ∨ 0xDFFF < c.val.toNat ∧ c.val.toNat < 0x110000 := c.valid
  have hchar : Char.ofNat c.val.toNat = c := Char.ofNat_toNat c
  unfold String.utf8EncodeChar
  dsimp only
  split
  · exact (run_one bs (by omega)).trans (by rw [hchar]; rfl)
  · split
    · exact (run_two bs (by omega) (by omega)).trans (by rw [hchar]; rfl)
    · split
      · exact (run_three bs (by omega) (by omega) (by omega)).trans (by rw [hchar]; rfl)
      · exact (run_four bs (by omega) (by omega)).trans (by rw [hchar]; rfl)

/-! ## Texts -/

theorem run_octets (cs : List Char) (bs : List UInt8) :
    run .start (octets cs ++ bs) =
      (cs.map fun c => .char c (String.utf8EncodeChar c).length) ++ run .start bs := by
  induction cs with
  | nil => rfl
  | cons c cs ih =>
    rw [show octets (c :: cs) = String.utf8EncodeChar c ++ octets cs from rfl, List.append_assoc,
      run_utf8EncodeChar, ih]
    rfl

/-- A state in which no octet below 0x80 can come next but as the start of something else. -/
def State.Closed : State → Prop
  | .start => True
  | .owing _ low _ _ _ => 0x80 ≤ low

theorem closed_lead (b : Nat) : (lead b).2.Closed := by
  unfold lead
  repeat' split
  all_goals simp [State.Closed]

theorem closed_step {s : State} (b : Nat) : (step s b).2.Closed := by
  cases s with
  | start => exact closed_lead b
  | owing owed low high acc seen =>
    simp only [step]
    split
    · split <;> simp [State.Closed]
    · exact closed_lead b

/-- An octet below 0x80 is a character by itself: what stands before it is read as if it were the
end, and what stands behind it as if it were the start. A character that it interrupts is ill-formed
either way. -/
theorem run_append_cons {s : State} (hs : s.Closed) (as : List UInt8) {b : UInt8}
    (hb : b.toNat < 0x80) (bs : List UInt8) :
    (run s (as ++ b :: bs)).map Piece.orReplacement =
      (run s as).map Piece.orReplacement ++
        Char.ofNat b.toNat :: (run .start bs).map Piece.orReplacement := by
  induction as generalizing s with
  | nil =>
    rw [List.nil_append, run_cons]
    cases s with
    | start =>
      rw [step_start, lead_ascii hb]
      rfl
    | owing owed low high acc seen =>
      -- the octet does not continue the character, so that is given up, as at the end
      have hlow : 0x80 ≤ low := hs
      have hout : ¬(low ≤ b.toNat ∧ b.toNat ≤ high) := by omega
      simp [step, hout, lead_ascii hb, run, Piece.orReplacement]
  | cons a as ih =>
    rw [List.cons_append, run_cons, run_cons, List.map_append, ih (closed_step _),
      List.map_append, List.append_assoc]

theorem collect_map_char (index : Nat) (cs : List Char) :
    collect index (cs.map fun c => .char c (String.utf8EncodeChar c).length) = .ok cs := by
  induction cs generalizing index with
  | nil => rfl
  | cons c cs ih =>
    rw [List.map_cons, collect, ih]
    rfl

end Utf8

theorem decode_octets (cs : List Char) : decode (octets cs) = .ok cs := by
  have h := Utf8.run_octets cs []
  rw [List.append_nil, Utf8.run, List.append_nil] at h
  rw [decode, h, Utf8.collect_map_char]

/-- What is written as UTF-8 is read back. -/
theorem decodeLossy_octets (cs : List Char) : decodeLossy (octets cs) = cs := by
  have h := Utf8.run_octets cs []
  rw [List.append_nil] at h
  simp [decodeLossy, h, Utf8.run, Utf8.Piece.orReplacement, Function.comp_def]

/-- Texts joined by an octet below 0x80 are read one by one. -/
theorem decodeLossy_append_cons (as : List UInt8) {b : UInt8} (hb : b.toNat < 0x80)
    (bs : List UInt8) :
    decodeLossy (as ++ b :: bs) = decodeLossy as ++ Char.ofNat b.toNat :: decodeLossy bs :=
  Utf8.run_append_cons (show Utf8.State.start.Closed from trivial) as hb bs

end Tenancy.Text
