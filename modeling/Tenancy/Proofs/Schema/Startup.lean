import Tenancy.Proofs.Text.Split
import Tenancy.Schema.ConnectionUri

/-!
# Startup options, as the server reads them

The server cuts the text of startup options into arguments at blanks; a backslash makes the
character behind it literal, a blank or another backslash included. Then it takes an argument `-c`
together with the one behind it as a setting, and of several settings of one name the last one
counts. `searchPath?` is what counts as the search path in the end.

What is put behind a text may be taken for something else: a backslash at the end of the text makes
the blank literal, and a `-c` at its end takes the next argument. If neither is left open, the text
is `Complete`, and the option of a search path behind it counts. The option `Counts` as well, if by
chance, where the text that swallows it sets the same path already (`searchPath?_option_iff`).
-/

set_option autoImplicit false

namespace Tenancy.Schema.Startup

open Text

/-! ## Arguments -/

/-- The characters that separate arguments. -/
def isBlank (c : Char) : Bool :=
  c == ' ' || c == '\t' || c == '\n' || c == '\r' || c == Char.ofNat 0x0B || c == Char.ofNat 0x0C

/-- Whether a character stands for itself in an argument. -/
def isPlain (c : Char) : Bool := !isBlank c && c != '\\'

/-- Where reading stands: between arguments, or inside one of which something has been read; there
the next character may be `escaped`. -/
inductive Place where
  | between
  | inside (read : List Char)
  | escaped (read : List Char)
  deriving DecidableEq, Repr

namespace Place

/-- One character, which may end an argument. -/
def step : Place → Char → List (List Char) × Place
  | .between, c =>
    if isBlank c then ([], .between)
    else if c = '\\' then ([], .escaped [])
    else ([], .inside [c])
  | .inside read, c =>
    if isBlank c then ([read], .between)
    else if c = '\\' then ([], .escaped read)
    else ([], .inside (read ++ [c]))
  | .escaped read, c => ([], .inside (read ++ [c]))

/-- What the end of the text ends. A backslash at the very end stands for nothing. -/
def ended : Place → List (List Char)
  | .between => []
  | .inside read => [read]
  | .escaped read => [read]

/-- What has been read of an argument that is not ended. -/
def pending : Place → List Char
  | .between => []
  | .inside read => read
  | .escaped read => read

/-- Where reading stands behind a text. -/
def behind (p : Place) (cs : List Char) : Place := cs.foldl (fun p c => (p.step c).2) p

theorem behind_append (p : Place) (a b : List Char) :
    p.behind (a ++ b) = (p.behind a).behind b :=
  List.foldl_append

theorem behind_cons (p : Place) (c : Char) (cs : List Char) :
    p.behind (c :: cs) = (p.step c).2.behind cs := rfl

/-- Whether the next character is to be made literal. -/
def isOpen : Place → Bool
  | .escaped _ => true
  | _ => false

end Place

/-- The arguments of a text, from a place on. -/
def argumentsFrom (p : Place) : List Char → List (List Char)
  | [] => p.ended
  | c :: cs => (p.step c).1 ++ argumentsFrom (p.step c).2 cs

/-- The arguments of a text. -/
def arguments (cs : List Char) : List (List Char) := argumentsFrom .between cs

/-- A blank ends what stands in front of it, unless it is made literal. -/
theorem argumentsFrom_append_blank {p : Place} {a : List Char}
    (h : (p.behind a).isOpen = false) (b : List Char) :
    argumentsFrom p (a ++ ' ' :: b) = argumentsFrom p a ++ arguments b := by
  have hblank : isBlank ' ' = true := rfl
  induction a generalizing p with
  | nil =>
    cases p with
    | between => rfl
    | inside read => simp [argumentsFrom, Place.step, hblank, Place.ended, arguments]
    | escaped read => cases h
  | cons c a ih =>
    rw [List.cons_append, argumentsFrom, argumentsFrom, ih h, List.append_assoc]

theorem arguments_append_blank {a : List Char}
    (h : (Place.between.behind a).isOpen = false) (b : List Char) :
    arguments (a ++ ' ' :: b) = arguments a ++ arguments b :=
  argumentsFrom_append_blank h b

theorem arguments_blank (cs : List Char) : arguments (' ' :: cs) = arguments cs := rfl

theorem step_inside_plain {c : Char} (h : isPlain c = true) (read : List Char) :
    (Place.inside read).step c = ([], .inside (read ++ [c])) := by
  obtain ⟨hblank, hescape⟩ := Bool.and_eq_true_iff.mp h
  rw [Place.step, if_neg (by simpa using hblank), if_neg (by simpa using hescape)]

theorem behind_inside {cs : List Char} (h : ∀ c ∈ cs, isPlain c = true) (read : List Char) :
    (Place.inside read).behind cs = .inside (read ++ cs) := by
  induction cs generalizing read with
  | nil => simp [Place.behind]
  | cons c cs ih =>
    have ih := ih (fun d hd => h d (List.mem_cons_of_mem _ hd)) (read ++ [c])
    rw [Place.behind_cons, step_inside_plain (h c List.mem_cons_self), ih, List.append_assoc]
    rfl

/-- Characters are lost where arguments are cut or made literal, and none are gained. -/
theorem length_flatten_argumentsFrom_le (p : Place) (cs : List Char) :
    (argumentsFrom p cs).flatten.length ≤ p.pending.length + cs.length := by
  induction cs generalizing p with
  | nil => cases p <;> simp [argumentsFrom, Place.ended, Place.pending]
  | cons c cs ih =>
    have hstep : (p.step c).1.flatten.length + (p.step c).2.pending.length ≤
        p.pending.length + 1 := by
      cases p <;> simp only [Place.step] <;> (repeat' split) <;> simp [Place.pending]
    have hrest := ih (p.step c).2
    simp only [argumentsFrom, List.flatten_append, List.length_append, List.length_cons]
    omega

/-- **A text is one argument exactly if it has no blank and no backslash.** -/
theorem argumentsFrom_inside_eq_iff (read cs : List Char) :
    argumentsFrom (.inside read) cs = [read ++ cs] ↔ ∀ c ∈ cs, isPlain c = true := by
  induction cs generalizing read with
  | nil => simp [argumentsFrom, Place.ended]
  | cons c cs ih =>
    by_cases hplain : isPlain c = true
    · rw [argumentsFrom, step_inside_plain hplain, List.nil_append, List.forall_mem_cons]
      have ih := ih (read ++ [c])
      rw [List.append_assoc, List.singleton_append] at ih
      simp only [ih, hplain, true_and]
    · refine iff_of_false (fun h => ?_) fun h => hplain (h c List.mem_cons_self)
      by_cases hblank : isBlank c = true
      · -- the argument has ended in front of the blank
        rw [argumentsFrom, Place.step, if_pos hblank] at h
        have hread := (List.cons.inj h).1
        simp at hread
      · -- the backslash is lost, and nothing makes up for it
        have hescape : c = '\\' := by
          simpa [isPlain, hblank] using hplain
        rw [argumentsFrom, Place.step, if_neg hblank, if_pos hescape, List.nil_append] at h
        have hle := length_flatten_argumentsFrom_le (.escaped read) cs
        rw [h] at hle
        simp only [List.flatten_singleton, List.length_append, List.length_cons,
          Place.pending] at hle
        omega

theorem behind_between {c : Char} {cs : List Char} (hc : isPlain c = true)
    (h : ∀ d ∈ cs, isPlain d = true) : Place.between.behind (c :: cs) = .inside (c :: cs) := by
  obtain ⟨hblank, hescape⟩ := Bool.and_eq_true_iff.mp hc
  rw [Place.behind_cons, Place.step, if_neg (by simpa using hblank),
    if_neg (by simpa using hescape), behind_inside h]
  rfl

theorem arguments_eq_singleton_iff {c : Char} (hc : isPlain c = true) (cs : List Char) :
    arguments (c :: cs) = [c :: cs] ↔ ∀ d ∈ cs, isPlain d = true := by
  obtain ⟨hblank, hescape⟩ := Bool.and_eq_true_iff.mp hc
  rw [arguments, argumentsFrom, Place.step, if_neg (by simpa using hblank),
    if_neg (by simpa using hescape), List.nil_append]
  exact argumentsFrom_inside_eq_iff [c] cs

/-! ## Settings -/

/-- The argument that makes the one behind it a setting. -/
def flag : List Char := ['-', 'c']

/-- The name of the search path among the settings. -/
def pathName : List Char := ['s', 'e', 'a', 'r', 'c', 'h', '_', 'p', 'a', 't', 'h']

/-- The settings among the arguments, by name and value, in order. -/
def settings : List (List Char) → List (List Char × List Char)
  | [] => []
  | [_] => []
  | a :: b :: rest =>
    if a = flag then (cutFirst '=' b).toList ++ settings rest else settings (b :: rest)

/-- Whether the last argument waits for a setting behind it. -/
def waits : List (List Char) → Bool
  | [] => false
  | [a] => a == flag
  | a :: b :: rest => if a = flag then waits rest else waits (b :: rest)

/-- An argument behind others is the setting that they wait for, or is read as if it were the first
one. The induction is that of the reading, which takes one argument or two. -/
theorem settings_append_cons (as : List (List Char)) (b : List Char) (bs : List (List Char)) :
    settings (as ++ b :: bs) =
      settings as ++
        if waits as = true then (cutFirst '=' b).toList ++ settings bs else settings (b :: bs) := by
  induction as using settings.induct with
  | case1 => rfl
  | case2 a => by_cases ha : a = flag <;> simp [settings, waits, ha]
  | case3 c rest ih => simp [settings, waits, ih]
  | case4 a c rest ha ih =>
    simp only [List.cons_append] at ih
    simp [settings, waits, ha, ih]

/-- The last search path among settings. -/
def lastPath? (settings : List (List Char × List Char)) : Option (List Char) :=
  ((settings.filter fun s => s.1 = pathName).getLast?).map Prod.snd

theorem lastPath?_append (a b : List (List Char × List Char)) :
    lastPath? (a ++ b) = (lastPath? b).or (lastPath? a) := by
  simp only [lastPath?, List.filter_append, List.getLast?_append]
  cases (b.filter fun s => s.1 = pathName).getLast? <;> simp

/-- The search path that counts in the end. -/
def searchPath? (text : List Char) : Option (List Char) := lastPath? (settings (arguments text))

/-- A `-c` behind the text waits for a setting: it is neither glued to what stands in front of it,
nor taken for the setting of another one. -/
def Complete (text : List Char) : Prop := waits (arguments (text ++ ' ' :: flag)) = true

instance (text : List Char) : Decidable (Complete text) :=
  inferInstanceAs (Decidable (_ = _))

/-- The option of a search path counts behind a text: it is read as an option there, or it is not
and the text sets this path itself. -/
def Counts (text path : List Char) : Prop :=
  Complete text ∨ searchPath? (text ++ ' ' :: flag) = some path

/-! ## The search path of two schemas -/

/-- The argument that sets a search path. -/
def pathSetting (path : List Char) : List Char := pathName ++ '=' :: path

theorem searchPathOption_eq (path : List Char) :
    searchPathOption path = flag ++ ' ' :: pathSetting path := by
  unfold searchPathOption
  simp
  rfl

/-- No backslash reaches beyond a flag that is put behind it. -/
theorem isOpen_behind_flag (p : Place) (text : List Char) :
    (p.behind (text ++ ' ' :: flag)).isOpen = false := by
  rw [Place.behind_append]
  cases p.behind text <;> rfl

theorem isPlain_pathSetting_iff (path : List Char) :
    (∀ c ∈ pathName.tail ++ '=' :: path, isPlain c = true) ↔ ∀ c ∈ path, isPlain c = true := by
  rw [List.forall_mem_append, List.forall_mem_cons]
  exact (and_iff_right (List.all_eq_true.mp (by decide))).trans (and_iff_right rfl)

/-- **The option of a search path is two arguments exactly if the path has no blank and no
backslash.** -/
theorem arguments_searchPathOption_iff (path : List Char) :
    arguments (searchPathOption path) = [flag, pathSetting path] ↔ ∀ c ∈ path, isPlain c = true := by
  have hflag : arguments flag = [flag] := by decide
  rw [searchPathOption_eq, arguments_append_blank (by decide), hflag, List.singleton_append,
    List.cons.injEq, eq_self_iff_true, true_and]
  exact (arguments_eq_singleton_iff (by decide) _).trans (isPlain_pathSetting_iff path)

section Plain

variable {path : List Char} (h : ∀ c ∈ path, isPlain c = true)
include h

/-- A setting is one argument, and what stands behind it behind a blank is read by itself. -/
theorem arguments_pathSetting_append {tail : List Char}
    (htail : tail = [] ∨ ∃ rest, tail = ' ' :: rest) :
    arguments (pathSetting path ++ tail) = pathSetting path :: arguments tail := by
  have hplain := (isPlain_pathSetting_iff path).mpr h
  have hone : arguments (pathSetting path) = [pathSetting path] :=
    (arguments_eq_singleton_iff (by decide) _).mpr hplain
  have hinside : Place.between.behind (pathSetting path) = .inside (pathSetting path) :=
    behind_between (by decide) hplain
  rcases htail with rfl | ⟨rest, rfl⟩
  · rw [List.append_nil, hone]
    rfl
  · rw [arguments_append_blank (by rw [hinside]; rfl), hone, arguments_blank]
    rfl

/-- **The search path that counts where an option is put between two texts**: the one that is set
behind it, or else its own if the text in front is complete. -/
theorem searchPath?_option {tail : List Char} (htail : tail = [] ∨ ∃ rest, tail = ' ' :: rest)
    (text : List Char) :
    searchPath? (text ++ ' ' :: (searchPathOption path ++ tail)) =
      (searchPath? tail).or
        (if Complete text then some path else searchPath? (text ++ ' ' :: flag)) := by
  have hcut : cutFirst '=' (pathSetting path) = some (pathName, path) :=
    cutFirst_append_cons (by decide) path
  have hflag : pathSetting path ≠ flag := by
    intro e
    have hlength := congrArg List.length e
    simp [pathSetting, pathName, flag] at hlength
  -- whatever the text is, the flag behind it ends at the blank
  have hread : arguments (text ++ ' ' :: (searchPathOption path ++ tail)) =
      arguments (text ++ ' ' :: flag) ++ pathSetting path :: arguments tail := by
    rw [← arguments_pathSetting_append h htail, ← arguments_append_blank (isOpen_behind_flag _ text),
      searchPathOption_eq]
    simp
  have hskip : settings (pathSetting path :: arguments tail) = settings (arguments tail) := by
    cases arguments tail with
    | nil => rfl
    | cons b rest => rw [settings, if_neg hflag]
  rw [searchPath?, hread, settings_append_cons, hcut, hskip]
  by_cases hcomplete : Complete text
  · have hwaits : waits (arguments (text ++ ' ' :: flag)) = true := hcomplete
    rw [if_pos hwaits, if_pos hcomplete, ← List.append_assoc, lastPath?_append, lastPath?_append]
    simp [lastPath?, searchPath?]
  · have hwaits : ¬waits (arguments (text ++ ' ' :: flag)) = true := hcomplete
    rw [if_neg hwaits, if_neg hcomplete, lastPath?_append]
    rfl

/-- The option's path counts if no other one is set behind it, and nothing in front swallows it. -/
theorem searchPath?_option_iff {tail : List Char}
    (htail : tail = [] ∨ ∃ rest, tail = ' ' :: rest) (text : List Char) :
    searchPath? (text ++ ' ' :: (searchPathOption path ++ tail)) = some path ↔
      (∀ other, searchPath? tail = some other → other = path) ∧
        (searchPath? tail = none → Counts text path) := by
  rw [searchPath?_option h htail, Counts]
  cases searchPath? tail with
  | some other => simp
  | none => by_cases hcomplete : Complete text <;> simp [hcomplete]

end Plain

theorem isPlain_nameChars_iff (cs : List Char) :
    (∀ c ∈ nameChars cs, isPlain c = true) ↔ ∀ c ∈ cs, isPlain c = true := by
  unfold nameChars
  split
  · rfl
  · have hquote : isPlain '"' = true := rfl
    constructor
    · intro h c hc
      refine h c ?_
      simp only [Sql.quotedChars, List.mem_append, List.mem_cons, List.mem_flatMap]
      refine .inl (.inr ⟨c, hc, ?_⟩)
      split <;> simp_all
    · intro h c hc
      simp only [Sql.quotedChars, List.mem_append, List.mem_cons, List.mem_flatMap,
        List.not_mem_nil, or_false] at hc
      rcases hc with (rfl | ⟨d, hd, hc⟩) | rfl
      · exact hquote
      · split at hc
        · simp at hc
          exact hc ▸ hquote
        · rw [List.mem_singleton.mp hc]
          exact h d hd
      · exact hquote

/-- A search path is free of blanks and backslashes if both schemas are. -/
theorem isPlain_searchPathChars_iff (schema fallback : List Char) :
    (∀ c ∈ searchPathChars schema fallback, isPlain c = true) ↔
      (∀ c ∈ schema, isPlain c = true) ∧ ∀ c ∈ fallback, isPlain c = true := by
  rw [searchPathChars, List.forall_mem_append, List.forall_mem_cons, isPlain_nameChars_iff,
    isPlain_nameChars_iff]
  exact and_congr_right' (and_iff_right rfl)

/-- Valid ids hold neither blanks nor backslashes. -/
theorem isPlain_of_isValidText {s : String} (h : TenantId.isValidText s = true) :
    ∀ c ∈ s.toList, isPlain c = true := by
  obtain ⟨-, -, hall⟩ := TenantId.isValidText_iff.mp h
  have hspecial : ∀ c, isPlain c = false → TenantId.isIdChar c = false := by
    intro c hc
    simp only [isPlain, isBlank, Bool.and_eq_false_iff, Bool.not_eq_false', Bool.or_eq_true,
      beq_iff_eq, bne_eq_false_iff_eq] at hc
    rcases hc with (((((rfl | rfl) | rfl) | rfl) | rfl) | rfl) | rfl <;> decide
  intro c hc
  by_cases hplain : isPlain c = true
  · exact hplain
  · have hid := hall c hc
    rw [hspecial c (by simpa using hplain)] at hid
    cases hid

end Tenancy.Schema.Startup
