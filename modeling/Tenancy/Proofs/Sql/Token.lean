import Tenancy.Sql

/-!
# Statements, cut into tokens as the server does

The server cuts a statement into words, names, texts, numbers, parameters and marks. Inside of a
delimited name or a text only its own quote has a meaning, so whether a value or a name can become
part of a statement is a question of where the cutting ends them. A quoted name is one token,
whatever it holds, and ends where it was written to end (`lexes_quoted`).

A text that `Lexes` as certain tokens does so in front of everything that ends a token, so texts are
cut where they were put together. Words are folded to lower case, and doubled quotes are given once.
The server goes on to join signs into operators and the parts of a broken number into one, takes a
letter in front of a text or a name for a notation, refuses empty names and cuts overlong ones short.
The `E` in front of a text is the one notation that changes where a token ends.
-/

set_option autoImplicit false

namespace Tenancy.Sql

/-- A token of a statement. -/
inductive Token where
  /-- A keyword or a name without quotes, in lower case. -/
  | word (text : String)
  /-- A delimited name. -/
  | name (text : String)
  /-- A text between single quotes or dollar signs. -/
  | text (text : String)
  /-- A parameter, by its position. -/
  | param (index : Nat)
  /-- A number, in digits. -/
  | number (value : Nat)
  /-- A sign. -/
  | mark (c : Char)
  deriving DecidableEq, Repr

/-! ## Characters -/

def isBlank (c : Char) : Bool :=
  [' ', '\t', '\n', '\r', Char.ofNat 0x0B, Char.ofNat 0x0C].contains c

/-- Whether a word can begin with a character. -/
def isWordStart (c : Char) : Bool := c.isAlpha || c == '_' || 0x80 ≤ c.toNat

/-- Whether a word goes on with a character. -/
def isWordPart (c : Char) : Bool := isWordStart c || c.isDigit || c == '$'

/-- Whether a character ends every token in front of it, names, words and numbers alike. -/
def isEnd (c : Char) : Bool := [' ', '.', ':', ')'].contains c

/-! ## Places -/

/-- Where cutting stands: between tokens, or inside one of which something has been read. -/
inductive Place where
  | between
  | word (read : List Char)
  | number (read : List Char)
  | name (read : List Char)
  /-- Behind a quote that ends a name, unless another one follows. -/
  | nameQuote (read : List Char)
  | text (escapes : Bool) (read : List Char)
  | textQuote (escapes : Bool) (read : List Char)
  | textEscape (read : List Char)
  /-- Behind a dollar sign, which begins a parameter or the tag of a text. -/
  | dollar
  | param (read : List Char)
  | tag (read : List Char)
  | tagged (opening read : List Char)
  | dash
  | slash
  | lineComment
  /-- Inside of comments, each nested in the one before. -/
  | comment (depth : Nat) (last : Char)
  deriving DecidableEq, Repr

/-- A word as a token. -/
def wordOf (cs : List Char) : Token := .word (String.ofList (cs.map Char.toLower))

/-- The number that digits stand for. -/
def valueOf (digits : List Char) : Nat := Nat.ofDigitChars 10 digits 0

namespace Place

/-- A character between tokens. -/
def start (c : Char) : List Token × Place :=
  if isBlank c then ([], .between)
  else if isWordStart c then ([], .word [c])
  else if c.isDigit then ([], .number [c])
  else if c = '"' then ([], .name [])
  else if c = '\'' then ([], .text false [])
  else if c = '$' then ([], .dollar)
  else if c = '-' then ([], .dash)
  else if c = '/' then ([], .slash)
  else ([.mark c], .between)

/-- A character behind tokens that it ends. -/
def restart (ts : List Token) (c : Char) : List Token × Place := (ts ++ (start c).1, (start c).2)

/-- One character, with the tokens that it ends. -/
def step : Place → Char → List Token × Place
  | .between, c => start c
  | .word read, c =>
    if isWordPart c then ([], .word (read ++ [c]))
    else if c = '\'' ∧ read.map Char.toLower = ['e'] then ([], .text true [])
    else restart [wordOf read] c
  | .number read, c =>
    if c.isDigit then ([], .number (read ++ [c])) else restart [.number (valueOf read)] c
  | .name read, c => ([], if c = '"' then .nameQuote read else .name (read ++ [c]))
  | .nameQuote read, c =>
    if c = '"' then ([], .name (read ++ ['"'])) else restart [.name (String.ofList read)] c
  | .text escapes read, c =>
    if c = '\'' then ([], .textQuote escapes read)
    else if c = '\\' ∧ escapes = true then ([], .textEscape read)
    else ([], .text escapes (read ++ [c]))
  | .textQuote escapes read, c =>
    if c = '\'' then ([], .text escapes (read ++ ['\'']))
    else restart [.text (String.ofList read)] c
  | .textEscape read, c => ([], .text true (read ++ ['\\', c]))
  | .dollar, c =>
    if c.isDigit then ([], .param [c])
    else if c = '$' then ([], .tagged [] [])
    else if isWordStart c then ([], .tag [c])
    else restart [.mark '$'] c
  | .param read, c =>
    if c.isDigit then ([], .param (read ++ [c])) else restart [.param (valueOf read)] c
  | .tag read, c =>
    if c = '$' then ([], .tagged read [])
    else if isWordPart c then ([], .tag (read ++ [c]))
    else restart [.mark '$', wordOf read] c
  | .tagged opening read, c =>
    let close := '$' :: opening ++ ['$']
    if close.isSuffixOf (read ++ [c]) then
      ([.text (String.ofList ((read ++ [c]).take (read.length + 1 - close.length)))], .between)
    else ([], .tagged opening (read ++ [c]))
  | .dash, c => if c = '-' then ([], .lineComment) else restart [.mark '-'] c
  | .slash, c => if c = '*' then ([], .comment 0 ' ') else restart [.mark '/'] c
  | .lineComment, c => ([], if c = '\n' ∨ c = '\r' then .between else .lineComment)
  | .comment depth last, c =>
    if last = '*' ∧ c = '/' then
      ([], if depth = 0 then .between else .comment (depth - 1) ' ')
    else if last = '/' ∧ c = '*' then ([], .comment (depth + 1) ' ')
    else ([], .comment depth c)

/-- The token of which something has been read, if it can end there. -/
def pending? : Place → Option (List Token)
  | .between => some []
  | .word read => some [wordOf read]
  | .number read => some [.number (valueOf read)]
  | .nameQuote read => some [.name (String.ofList read)]
  | .textQuote _ read => some [.text (String.ofList read)]
  | .dollar => some [.mark '$']
  | .param read => some [.param (valueOf read)]
  | .tag read => some [.mark '$', wordOf read]
  | .dash => some [.mark '-']
  | .slash => some [.mark '/']
  | _ => none

/-- What the end of the statement ends; names, texts and nested comments have to be ended before. -/
def ended? : Place → Option (List Token)
  | .lineComment => some []
  | p => p.pending?

/-- The tokens that a text ends, and where it leads to. -/
def run (p : Place) : List Char → List Token × Place
  | [] => ([], p)
  | c :: cs => ((p.step c).1 ++ ((p.step c).2.run cs).1, ((p.step c).2.run cs).2)

end Place

/-- The tokens of a text, from a place on. -/
def tokensFrom (p : Place) : List Char → Option (List Token)
  | [] => p.ended?
  | c :: cs => (tokensFrom (p.step c).2 cs).map ((p.step c).1 ++ ·)

/-- The tokens of a statement. -/
def tokens? (sql : String) : Option (List Token) := tokensFrom .between sql.toList

example : tokens? "SELECT \"a\"\"b\"; -- $1 \"" =
    some [.word "select", .name "a\"b", .mark ';'] := by decide

example : tokens? "x = $12 /* ' /* */ */ OR y = 'it''s'" =
    some [.word "x", .mark '=', .param 12, .word "or", .word "y", .mark '=', .text "it's"] := by
  decide

/-! ## Joined texts -/

theorem map_append_map (o : Option (List Token)) (ts us : List Token) :
    (o.map (us ++ ·)).map (ts ++ ·) = o.map (ts ++ us ++ ·) := by
  cases o <;> simp

theorem tokensFrom_append (p : Place) (a b : List Char) :
    tokensFrom p (a ++ b) = (tokensFrom (p.run a).2 b).map ((p.run a).1 ++ ·) := by
  induction a generalizing p with
  | nil => simp [Place.run]
  | cons c a ih =>
    rw [List.cons_append, tokensFrom, ih, map_append_map]
    rfl

/-- Texts that end every token in front of them, or are empty. -/
def Ends (cs : List Char) : Prop := ∀ c ∈ cs.head?, isEnd c = true

theorem step_of_isEnd {p : Place} {ts : List Token} (hp : p.pending? = some ts) {c : Char}
    (hc : isEnd c = true) : p.step c = Place.restart ts c := by
  have hmem : c = ' ' ∨ c = '.' ∨ c = ':' ∨ c = ')' := by
    simpa [isEnd] using hc
  rcases hmem with rfl | rfl | rfl | rfl <;> cases p <;> cases hp <;> rfl

theorem ends_append {a : List Char} (ha : a.head?.any isEnd = true) (rest : List Char) :
    Ends (a ++ rest) := by
  cases a with
  | nil => cases ha
  | cons c a =>
    intro d hd
    obtain rfl := Option.some.inj hd
    exact ha

theorem tokensFrom_of_ends {p : Place} {ts : List Token} (hp : p.pending? = some ts)
    {cs : List Char} (hcs : Ends cs) :
    tokensFrom p cs = (tokensFrom .between cs).map (ts ++ ·) := by
  cases cs with
  | nil =>
    have hended : p.ended? = some ts := by
      cases p <;> first | exact hp | cases hp
    simpa [tokensFrom, Place.ended?, Place.pending?] using hended
  | cons c cs =>
    rw [tokensFrom, tokensFrom, step_of_isEnd hp (hcs c rfl), map_append_map]
    rfl

/-- A text is cut into certain tokens if what follows ends the last of them. -/
def Lexes (s : String) (ts : List Token) : Prop :=
  ∀ rest, Ends rest →
    tokensFrom .between (s.toList ++ rest) = (tokensFrom .between rest).map (ts ++ ·)

/-- A text is cut into certain tokens, whatever follows. -/
def Opens (s : String) (ts : List Token) : Prop :=
  ∀ rest, tokensFrom .between (s.toList ++ rest) = (tokensFrom .between rest).map (ts ++ ·)

theorem Opens.of_run {s : String} {ts : List Token}
    (h : Place.between.run s.toList = (ts, .between)) : Opens s ts := by
  intro rest
  rw [tokensFrom_append, h]

theorem Opens.append {a b : String} {ts us : List Token} (ha : Opens a ts) (hb : Lexes b us) :
    Lexes (a ++ b) (ts ++ us) := by
  intro rest hrest
  rw [String.toList_append, List.append_assoc, ha, hb rest hrest, map_append_map]

namespace Lexes

theorem of_run {s : String} (ts : List Token) {us : List Token} (p : Place)
    (hrun : Place.between.run s.toList = (ts, p)) (hp : p.pending? = some us) :
    Lexes s (ts ++ us) := by
  intro rest hrest
  rw [tokensFrom_append, hrun, tokensFrom_of_ends hp hrest, map_append_map]

theorem tokens? {s : String} {ts : List Token} (h : Lexes s ts) : Sql.tokens? s = some ts := by
  have hall := h [] (by simp [Ends])
  simpa [Sql.tokens?, tokensFrom, Place.ended?, Place.pending?] using hall

/-- Text that begins with the end of a token can be put behind. -/
theorem append {a b : String} {ts us : List Token} (ha : Lexes a ts) (hb : Lexes b us)
    (hend : b.toList.head?.any isEnd = true) : Lexes (a ++ b) (ts ++ us) := by
  intro rest hrest
  have hends : Ends (b.toList ++ rest) := ends_append hend rest
  rw [String.toList_append, List.append_assoc, ha _ hends, hb rest hrest, map_append_map]

/-- Behind a text that begins with the end of a token and leads to no other one, anything can
follow. -/
theorem opens {a : String} {ts : List Token} (ha : Lexes a ts) (b : String) (us : List Token)
    (hb : Place.between.run b.toList = (us, .between)) (hend : b.toList.head?.any isEnd = true) :
    Opens (a ++ b) (ts ++ us) := by
  intro rest
  have hends : Ends (b.toList ++ rest) := ends_append hend rest
  rw [String.toList_append, List.append_assoc, ha _ hends, Opens.of_run hb, map_append_map]

end Lexes

/-! ## Names, words and digits -/

theorem run_cons_of_step {p q : Place} {c : Char} (h : p.step c = ([], q)) (cs : List Char) :
    p.run (c :: cs) = q.run cs := by
  rw [Place.run, h]
  rfl

/-- A name is read to its end: every quote inside is doubled, so none of them ends it. -/
theorem run_name (read cs : List Char) :
    (Place.name read).run (cs.flatMap (fun c => if c = '"' then ['"', '"'] else [c]) ++ ['"']) =
      ([], .nameQuote (read ++ cs)) := by
  induction cs generalizing read with
  | nil => rw [List.append_nil]; rfl
  | cons c cs ih =>
    rw [List.flatMap_cons, List.append_assoc]
    by_cases hc : c = '"'
    · subst hc
      rw [if_pos rfl, List.cons_append, List.cons_append, List.nil_append,
        run_cons_of_step rfl, run_cons_of_step rfl, ih, List.append_assoc]
      rfl
    · have hstep : (Place.name read).step c = ([], .name (read ++ [c])) := by
        rw [Place.step, if_neg hc]
      rw [if_neg hc, List.cons_append, List.nil_append, run_cons_of_step hstep, ih,
        List.append_assoc]
      rfl

/-- **A quoted name is one token, whatever characters it holds.** -/
theorem lexes_quoted (name : String) : Lexes (quoted name) [.name name] := by
  have hrun : Place.between.run (quoted name).toList = ([], .nameQuote name.toList) := by
    rw [quoted, String.toList_ofList, quotedChars, List.cons_append, run_cons_of_step rfl]
    exact run_name [] name.toList
  have hlexes := Lexes.of_run [] _ hrun rfl
  rwa [String.ofList_toList] at hlexes

/-- What goes on with certain characters is read to the end of them. -/
theorem run_of_step {f : List Char → Place} {isPart : Char → Bool}
    (hstep : ∀ read c, isPart c = true → (f read).step c = ([], f (read ++ [c])))
    {cs : List Char} (hcs : ∀ c ∈ cs, isPart c = true) (read : List Char) :
    (f read).run cs = ([], f (read ++ cs)) := by
  induction cs generalizing read with
  | nil => rw [List.append_nil]; rfl
  | cons c cs ih =>
    have ih := ih (fun d hd => hcs d (List.mem_cons_of_mem _ hd)) (read ++ [c])
    rw [run_cons_of_step (hstep read c (hcs c List.mem_cons_self)), ih, List.append_assoc]
    rfl

/-- Whether a text is a word that is read as it is written: as one word, with nothing to fold. -/
def isPlain (w : String) : Bool :=
  match w.toList with
  | [] => false
  | c :: cs =>
    isWordStart c && cs.all isWordPart && (c :: cs).map Char.toLower == c :: cs

theorem not_isBlank_of_isWordStart {c : Char} (h : isWordStart c = true) : isBlank c = false := by
  cases hblank : isBlank c with
  | false => rfl
  | true =>
    have hmem : c = ' ' ∨ c = '\t' ∨ c = '\n' ∨ c = '\r' ∨ c = Char.ofNat 0x0B ∨
        c = Char.ofNat 0x0C := by
      simpa [isBlank] using hblank
    rcases hmem with rfl | rfl | rfl | rfl | rfl | rfl <;> exact absurd h (by decide)

theorem lexes_word {w : String} (h : isPlain w = true) : Lexes w [.word w] := by
  unfold isPlain at h
  cases hw : w.toList with
  | nil =>
    rw [hw] at h
    cases h
  | cons c cs =>
    rw [hw] at h
    simp only [Bool.and_eq_true, List.all_eq_true, beq_iff_eq] at h
    obtain ⟨⟨hstart, hparts⟩, hfolded⟩ := h
    have hfirst : Place.between.step c = ([], .word [c]) := by
      simp [Place.step, Place.start, not_isBlank_of_isWordStart hstart, hstart]
    have hrun : Place.between.run w.toList = ([], .word w.toList) := by
      rw [hw, run_cons_of_step hfirst]
      exact run_of_step (f := .word) (fun read c hc => by rw [Place.step, if_pos hc]) hparts [c]
    have hlexes := Lexes.of_run [] _ hrun rfl
    rwa [wordOf, hw, hfolded, ← hw, String.ofList_toList] at hlexes

theorem start_of_isDigit {c : Char} (h : c.isDigit = true) : Place.start c = ([], .number [c]) := by
  have hrange : 48 ≤ c.toNat ∧ c.toNat ≤ 57 := by
    simpa [Char.isDigit, UInt32.le_iff_toNat_le] using h
  have hne : ∀ d : Char, d.toNat < 48 ∨ 57 < d.toNat → c ≠ d := by
    rintro d hd rfl
    omega
  have hblank : isBlank c = false := by
    simp [isBlank, hne]
  have halpha : c.isAlpha = false := by
    show (decide (c.val ≥ 'A'.val ∧ c.val ≤ 'Z'.val) ||
      decide (c.val ≥ 'a'.val) && decide (c.val ≤ 'z'.val)) = false
    simp [UInt32.le_iff_toNat_le]
    omega
  have hstart : isWordStart c = false := by
    simp [isWordStart, halpha, hne]
    omega
  simp [Place.start, hblank, hstart, h]

theorem isDigit_of_mem_toList {n : Nat} {c : Char} (h : c ∈ (toString n).toList) :
    c.isDigit = true := by
  rw [Nat.toString_eq_repr, Nat.toList_repr] at h
  exact Nat.isDigit_of_mem_toDigits (by decide) (by decide) h

theorem valueOf_toList (n : Nat) : valueOf (toString n).toList = n := by
  rw [valueOf, Nat.toString_eq_repr, Nat.toList_repr]
  exact Nat.ofDigitChars_ten_toDigits

/-- Digits are read to the end of them, from the place that the first one leads to. -/
theorem run_digits {p : Place} {f : List Char → Place} {n : Nat}
    (hfirst : ∀ c, c.isDigit = true → p.step c = ([], f [c]))
    (hstep : ∀ read c, c.isDigit = true → (f read).step c = ([], f (read ++ [c]))) :
    p.run (toString n).toList = ([], f (toString n).toList) := by
  have hdigits : ∀ c ∈ (toString n).toList, c.isDigit = true := fun c => isDigit_of_mem_toList
  cases hn : (toString n).toList with
  | nil =>
    rw [Nat.toString_eq_repr, Nat.toList_repr] at hn
    exact absurd hn Nat.toDigits_ne_nil
  | cons c cs =>
    rw [hn] at hdigits
    rw [run_cons_of_step (hfirst c (hdigits c List.mem_cons_self))]
    exact run_of_step hstep (fun d hd => hdigits d (List.mem_cons_of_mem _ hd)) [c]

theorem lexes_number (n : Nat) : Lexes (toString n) [.number n] := by
  have hrun : Place.between.run (toString n).toList = ([], .number (toString n).toList) :=
    run_digits (fun _ => start_of_isDigit) fun read c hc => by rw [Place.step, if_pos hc]
  have hlexes := Lexes.of_run [] _ hrun rfl
  rwa [valueOf_toList] at hlexes

theorem lexes_param (n : Nat) : Lexes ("$" ++ toString n) [.param n] := by
  have hdigits : Place.dollar.run (toString n).toList = ([], .param (toString n).toList) :=
    run_digits (fun c hc => by rw [Place.step, if_pos hc]) fun read c hc => by
      rw [Place.step, if_pos hc]
  have hrun : Place.between.run ("$" ++ toString n).toList = ([], .param (toString n).toList) := by
    rw [String.toList_append]
    exact (run_cons_of_step rfl _).trans hdigits
  have hlexes := Lexes.of_run [] _ hrun rfl
  rwa [valueOf_toList] at hlexes

end Tenancy.Sql
