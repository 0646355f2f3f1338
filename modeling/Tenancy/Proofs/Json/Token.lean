import Tenancy.Json.Printer
import Tenancy.Json.Token
import Tenancy.Proofs.Text.Decimal

/-!
# Cutting printed JSON into tokens

A text that is cut into tokens without a fault is cut into the same tokens in front of a comma, a
colon or a closing brace: such a mark belongs to no other token and ends a number (`tokens_append`).
So a document is cut where it was put together, and what is left to say is that every scalar is
printed as its own token: texts, whatever has to be escaped in them (`tokens_renderText`), and whole
numbers of one word (`tokens_toDigits`).
-/

set_option autoImplicit false

namespace Tenancy.Json

open Text

namespace Lexer

theorem run_cons_of_step {l l' : Lexer} {c : Char} (h : step l c = ([], some l'))
    (cs : List Char) : run l (c :: cs) = run l' cs := by
  rw [run, h]
  rfl

/-! ## Marks -/

/-- The characters that end whatever token stands in front of them. -/
def IsMark (c : Char) : Prop := c = ',' ∨ c = ':' ∨ c = '\x7d'

theorem of_ite_goesOn {p : Prop} [Decidable p] {ts out : List Token} {l : Lexer}
    {r : List Token × Option Lexer} (h : (if p then (ts, some l) else r) = (out, none)) :
    r = (out, none) := by
  by_cases hp : p
  · rw [if_pos hp] at h
    cases h
  · rwa [if_neg hp] at h

theorem bad_mem_of_begin {c : Char} {out : List Token} (h : begin c = (out, none)) :
    Token.bad ∈ out := by
  unfold begin at h
  repeat replace h := of_ite_goesOn h
  cases h
  exact List.mem_cons_self

/-- The lexer gives up at a fault only. -/
theorem bad_mem_of_step {l : Lexer} {c : Char} {out : List Token} (h : step l c = (out, none)) :
    Token.bad ∈ out := by
  -- where a token ends without its last character, that one is read anew
  have hbehind : ∀ t, (t :: (begin c).1, (begin c).2) = (out, none) → Token.bad ∈ out := by
    intro t h
    obtain ⟨rfl, hnone⟩ := Prod.mk.inj h
    exact List.mem_cons_of_mem _ (bad_mem_of_begin (Prod.ext rfl hnone))
  cases l with
  | ground => exact bad_mem_of_begin h
  | word rest t =>
    cases rest with
    | nil => exact hbehind t h
    | cons w ws =>
      simp only [step] at h
      split at h
      · cases h
        exact List.mem_cons_self
      · split at h <;> cases h
  | numeral n p =>
    simp only [step] at h
    split at h
    · cases h
    · split at h
      · exact hbehind _ h
      · cases h
        exact List.mem_cons_self
  | quoted q =>
    simp only [step] at h
    split at h
    · cases h
    · cases h
    · cases h
      exact List.mem_cons_self

theorem run_mark {l : Lexer} {c : Char} (hc : IsMark c) (h : Token.bad ∉ l.atEnd)
    (cs : List Char) : run l (c :: cs) = l.atEnd ++ run .ground (c :: cs) := by
  cases l with
  | ground => rfl
  | word rest t =>
    cases rest with
    | nil => rcases hc with rfl | rfl | rfl <;> rfl
    | cons w ws => exact absurd List.mem_cons_self h
  | numeral n p =>
    cases p with
    | minus | point | mark | markSign => exact absurd List.mem_cons_self h
    | zero | whole | fraction | power => rcases hc with rfl | rfl | rfl <;> rfl
  | quoted q => exact absurd List.mem_cons_self h

theorem run_append {l : Lexer} {a : List Char} (h : Token.bad ∉ run l a) {c : Char} (hc : IsMark c)
    (cs : List Char) : run l (a ++ c :: cs) = run l a ++ run .ground (c :: cs) := by
  induction a generalizing l with
  | nil => exact run_mark hc h cs
  | cons x a ih =>
    rw [List.cons_append, run, run]
    rw [run] at h
    cases hstep : step l x with
    | mk out next =>
      rw [hstep] at h
      cases next with
      | none => exact absurd (bad_mem_of_step hstep) h
      | some l =>
        dsimp only at h ⊢
        rw [ih fun hbad => h (List.mem_append_right _ hbad), List.append_assoc]

end Lexer

/-- **A text without a fault is cut by itself in front of a mark.** -/
theorem tokens_append {a : List Char} (h : Token.bad ∉ tokens a) {c : Char} (hc : Lexer.IsMark c)
    (cs : List Char) : tokens (a ++ c :: cs) = tokens a ++ tokens (c :: cs) :=
  Lexer.run_append h hc cs

/-! ## Texts -/

/-- The four digits of an escaped control character are read back. -/
theorem hexValue?_digitChar : ∀ n < 0x20,
    Quoted.hexValue? (Nat.digitChar (n / 16)) = some (n / 16) ∧
      Quoted.hexValue? (Nat.digitChar (n % 16)) = some (n % 16) := by
  decide

namespace Lexer

/-- Among plain characters, the last one first. -/
def inText (done : List Char) : Lexer := .quoted ⟨done, none, false, .plain⟩

/-- Inside the digits of an escaped code unit, behind such characters. -/
def inUnit (done : List Char) (left acc : Nat) : Lexer :=
  .quoted ⟨done, none, false, .unit left acc⟩

theorem run_escape (done : List Char) (c : Char) (rest : List Char) :
    run (inText done) (escape c ++ rest) = run (inText (c :: done)) rest := by
  unfold escape
  split
  · next hc => rw [beq_iff_eq.mp hc]; rfl
  split
  · next hc => rw [beq_iff_eq.mp hc]; rfl
  split
  · next hc => rw [beq_iff_eq.mp hc]; rfl
  split
  · next hc => rw [beq_iff_eq.mp hc]; rfl
  split
  · next hc => rw [beq_iff_eq.mp hc]; rfl
  split
  · next hc => rw [beq_iff_eq.mp hc]; rfl
  split
  · next hc => rw [beq_iff_eq.mp hc]; rfl
  split
  · next hcontrol =>
    obtain ⟨hhigh, hlow⟩ := hexValue?_digitChar c.toNat hcontrol
    have hvalue : c.toNat / 16 * 16 + c.toNat % 16 = c.toNat := by omega
    have hfirst : step (inUnit done 2 0) (Nat.digitChar (c.toNat / 16)) =
        ([], some (inUnit done 1 (c.toNat / 16))) := by
      simp [step, inUnit, Quoted.step, hhigh]
    have hlast : step (inUnit done 1 (c.toNat / 16)) (Nat.digitChar (c.toNat % 16)) =
        ([], some (inText (c :: done))) := by
      have hnone : ¬0xD800 ≤ c.toNat := by omega
      have hnone' : ¬0xDC00 ≤ c.toNat := by omega
      simp [step, inUnit, inText, Quoted.step, hlow, hvalue, Quoted.pushUnit, hnone, hnone',
        Quoted.push, Char.ofNat_toNat]
    calc run (inText done) (_ ++ rest)
      _ = run (inUnit done 2 0)
          (Nat.digitChar (c.toNat / 16) :: Nat.digitChar (c.toNat % 16) :: rest) := rfl
      _ = run (inText (c :: done)) rest := by
        rw [run_cons_of_step hfirst, run_cons_of_step hlast]
  · next hquote hbackslash _ _ _ _ _ hcontrol =>
    have hstep : step (inText done) c = ([], some (inText (c :: done))) := by
      simp [step, inText, Quoted.step, hquote, hbackslash, hcontrol, Quoted.push]
    exact run_cons_of_step hstep rest

theorem run_escapes (done cs : List Char) (rest : List Char) :
    run (inText done) (cs.flatMap escape ++ rest) = run (inText (cs.reverse ++ done)) rest := by
  induction cs generalizing done with
  | nil => rfl
  | cons c cs ih =>
    rw [List.flatMap_cons, List.append_assoc, run_escape, ih, List.reverse_cons, List.append_assoc,
      List.singleton_append]

end Lexer

/-- **A text is printed as its own token.** -/
theorem tokens_renderText (s : String) : tokens (renderText s) = [.text s] := by
  have hread := Lexer.run_escapes [] s.toList ['"']
  rw [List.append_nil] at hread
  calc tokens (renderText s)
    _ = Lexer.run (Lexer.inText []) (s.toList.flatMap escape ++ ['"']) := rfl
    _ = [.text (String.ofList s.toList.reverse.reverse)] := hread
    _ = [.text s] := by rw [List.reverse_reverse, String.ofList_toList]

/-! ## Numbers -/

namespace Numeral

/-- A whole number that has been read so far, the last digit first. -/
def inDigits (ds : List Char) : Numeral := ⟨false, ds, [], false, [], true⟩

/-- Digits are added as long as the number fits. -/
theorem fill_eq {acc : Nat} {cs : List Char} (h : Decimal.valueFrom acc cs ≤ Natural.max64) :
    fill acc cs = (Decimal.valueFrom acc cs, 0) := by
  induction cs generalizing acc with
  | nil => rfl
  | cons c cs ih =>
    have hle : acc * 10 + digitValue c ≤ Natural.max64 :=
      Nat.le_trans (Decimal.le_valueFrom _ cs) h
    rw [fill, if_pos hle]
    exact ih h

end Numeral

namespace Lexer

theorem run_digits {cs : List Char} (h : ∀ c ∈ cs, c.isDigit = true) (ds : List Char) :
    run (.numeral (Numeral.inDigits ds) .whole) cs =
      [(Numeral.inDigits (cs.reverse ++ ds)).token] := by
  induction cs generalizing ds with
  | nil => rfl
  | cons c cs ih =>
    have hstep : step (.numeral (Numeral.inDigits ds) .whole) c =
        ([], some (.numeral (Numeral.inDigits (c :: ds)) .whole)) := by
      simp [step, Numeral.push, Numeral.inDigits, h c List.mem_cons_self]
    rw [run_cons_of_step hstep, ih fun d hd => h d (List.mem_cons_of_mem _ hd), List.reverse_cons,
      List.append_assoc, List.singleton_append]

theorem begin_digit {c : Char} (hdigit : c.isDigit = true) (hzero : c ≠ '0') :
    begin c = ([], some (.numeral (Numeral.inDigits [c]) .whole)) := by
  have hascii : c.toNat < 0x80 := Nat.lt_of_le_of_lt (isDigit_iff_toNat.mp hdigit).2 (by decide)
  have hall : c.isDigit = true → c ≠ '0' →
      begin c = ([], some (.numeral (Numeral.inDigits [c]) .whole)) :=
    of_forall_ascii c hascii (by decide)
  exact hall hdigit hzero

end Lexer

/-- **A number of one word is printed as its own token.** -/
theorem tokens_toDigits {n : Nat} (h : n ≤ Natural.max64) :
    tokens (Nat.toDigits 10 n) = [.number (.whole n)] := by
  -- a leading zero has a phase of its own, which no other digit follows
  by_cases hzero : n = 0
  · subst hzero
    rfl
  obtain ⟨c, cs, hcs⟩ := Decimal.exists_toDigits_eq_cons n
  have hdigits : ∀ d ∈ c :: cs, d.isDigit = true := fun d hd =>
    Decimal.isDigit_of_mem_toDigits (hcs ▸ hd)
  have hhead : c ≠ '0' := fun hc => by
    have := Decimal.head?_toDigits_ne hzero
    rw [hcs, hc] at this
    exact this rfl
  have hvalue : Decimal.valueFrom 0 (c :: cs) = n := hcs ▸ Decimal.valueFrom_toDigits n
  have hfill : Numeral.fill 0 (c :: cs) = (n, 0) := by
    rw [Numeral.fill_eq (hvalue.symm ▸ h), hvalue]
  have htoken : (Numeral.inDigits (cs.reverse ++ [c])).token = .number (.whole n) := by
    simp [Numeral.token, Numeral.value?, Numeral.inDigits, hfill]
  have hbegin : Lexer.step .ground c = ([], some (.numeral (Numeral.inDigits [c]) .whole)) :=
    Lexer.begin_digit (hdigits c List.mem_cons_self) hhead
  rw [hcs, tokens, Lexer.run_cons_of_step hbegin,
    Lexer.run_digits fun d hd => hdigits d (List.mem_cons_of_mem _ hd), htoken]

end Tenancy.Json
