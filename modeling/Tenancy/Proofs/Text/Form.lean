import Tenancy.Proofs.Text.Percent
import Tenancy.Proofs.Text.Split
import Tenancy.Text.Form

/-!
# Writing and reading queries

A value written by `encodeComponent` is read back by the reading of forms and by the plain one: it
holds no plus sign that the first would take for a space. It can be added behind another value with
an encoded space between the two, and the other value is read as it was
(`decodeComponent_append_blank`). Joined by ampersands, segments are cut again where they were
joined (`segments_intercalate`).
-/

set_option autoImplicit false

namespace Tenancy.Text

namespace Form

/-! ## Components -/

theorem toNat_lt_of_isPlain {b : UInt8} (h : isPlain b = true) : b.toNat < 0x80 := by
  simp only [isPlain, Bool.or_eq_true, Bool.and_eq_true, decide_eq_true_eq, beq_iff_eq,
    UInt8.le_iff_toNat_le, ← UInt8.toNat_inj] at h
  simp only [UInt8.toNat_ofNat] at h
  omega

/-- The octets that components are written with. -/
def isWritten (b : UInt8) : Bool := isPlain b || b == 0x25

theorem stable_isWritten : Percent.Stable isWritten where
  ascii b h := by
    rcases Bool.or_eq_true_iff.mp h with h | h
    · exact toNat_lt_of_isPlain h
    · rw [beq_iff_eq.mp h]
      decide
  triples := forall_mem_of_all (by decide)

/-- Components hold letters, digits, `*`, `-`, `.`, `_` and percent signs only. -/
theorem kept_of_mem_encodeComponent {cs : List Char} {c : Char} (h : c ∈ encodeComponent cs) :
    Percent.Kept isWritten c :=
  Percent.kept_of_mem_encodeOctets stable_isWritten
    (fun _ hb => Bool.or_eq_true_iff.mpr (.inl hb)) h

theorem decode_encodeComponent (cs : List Char) :
    Percent.decode (encodeComponent cs) = octets cs :=
  Percent.decode_encode (fun _ => toNat_lt_of_isPlain) (by decide) cs

/-! ## The reading of forms -/

/-- A plus sign as a space. -/
def plusAsBlank (b : UInt8) : UInt8 := if b = 0x2B then 0x20 else b

theorem decodeOctets_eq (cs : List Char) :
    decodeOctets cs = Percent.decodeOctets ((octets cs).map plusAsBlank) := rfl

theorem map_plusAsBlank_of_kept {keep : UInt8 → Bool} (hplus : keep 0x2B = false) {cs : List Char}
    (h : ∀ c ∈ cs, Percent.Kept keep c) : (octets cs).map plusAsBlank = octets cs := by
  rw [octets_ascii fun c hc => (h c hc).1, List.map_map]
  refine List.map_congr_left fun c hc => if_neg fun (e : UInt8.ofNat c.toNat = 0x2B) => ?_
  have hkeep := (h c hc).2
  rw [e, hplus] at hkeep
  exact Bool.noConfusion hkeep

theorem decodeOctets_encodeComponent (cs : List Char) :
    decodeOctets (encodeComponent cs) = octets cs := by
  rw [decodeOctets_eq,
    map_plusAsBlank_of_kept (by decide) fun _ => kept_of_mem_encodeComponent]
  exact decode_encodeComponent cs

/-- **What was written as a component is read back.** -/
theorem decodeComponent_encodeComponent (cs : List Char) :
    decodeComponent (encodeComponent cs) = cs := by
  rw [decodeComponent, decodeOctets_encodeComponent, decodeLossy_octets]

/-- **A value that is added behind another one with an encoded space** is read behind that one,
which may be anything. -/
theorem decodeComponent_append_blank (existing cs : List Char) :
    decodeComponent (existing ++ "%20".toList ++ encodeComponent cs) =
      decodeComponent existing ++ ' ' :: cs := by
  have hspace : (octets "%20".toList).map plusAsBlank = [0x25, 0x32, 0x30] := by decide
  have hplain : (octets (encodeComponent cs)).map plusAsBlank = octets (encodeComponent cs) :=
    map_plusAsBlank_of_kept (by decide) fun _ => kept_of_mem_encodeComponent
  -- from the percent sign of the encoded space on, everything is read as if it stood alone
  have hread : Percent.decodeFrom 0 (0x25 :: 0x32 :: 0x30 :: octets (encodeComponent cs)) =
      0x20 :: octets cs :=
    congrArg (0x20 :: ·) (decode_encodeComponent cs)
  have hoctets : decodeOctets (existing ++ "%20".toList ++ encodeComponent cs) =
      decodeOctets existing ++ 0x20 :: octets cs := by
    rw [decodeOctets_eq, List.append_assoc, octets_append, octets_append, List.map_append,
      List.map_append, hspace, hplain, ← hread]
    exact Percent.decodeFrom_append_percent 0 _ _ (Nat.zero_le _)
  rw [decodeComponent, hoctets, decodeLossy_append_cons _ (by decide), decodeLossy_octets]
  rfl

/-! ## Segments -/

/-- Segments that are not empty are cut where they were joined. -/
theorem segments_intercalate {ss : List (List Char)} (h : ∀ s ∈ ss, s ≠ [] ∧ '&' ∉ s) :
    segments (['&'].intercalate ss) = ss := by
  unfold segments
  cases ss with
  | nil => rfl
  | cons s ss =>
    rw [pieces_intercalate (List.cons_ne_nil s ss) fun p hp => (h p hp).2]
    exact List.filter_eq_self.mpr fun p hp => by simp [(h p hp).1]

theorem of_mem_segments {query s : List Char} (h : s ∈ segments query) : s ≠ [] ∧ '&' ∉ s := by
  obtain ⟨hmem, hne⟩ := List.mem_filter.mp h
  exact ⟨by simpa using hne, not_mem_of_mem_pieces hmem⟩

theorem mem_of_mem_segments {query s : List Char} {c : Char} (hs : s ∈ segments query)
    (hc : c ∈ s) : c ∈ query := by
  obtain ⟨hmem, -⟩ := List.mem_filter.mp hs
  rw [← intercalate_pieces '&' query]
  exact mem_intercalate.mpr (.inl ⟨s, hmem, hc⟩)

theorem pair_append_cons {name : List Char} (h : '=' ∉ name) (value : List Char) :
    pair (name ++ '=' :: value) = (decodeComponent name, decodeComponent value) := by
  rw [pair, cutFirst_append_cons h]

end Form

end Tenancy.Text
